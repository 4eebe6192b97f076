import QueryTemplates.Proofs.Number.Numeral
import QueryTemplates.Proofs.Number.Shortest

/-!
# Written magnitudes

The digits of a magnitude are written with a point among them, or with a power of ten behind them
when the point would stand far from them. Either way the text tells the value that the digits stand
for, so two magnitudes are never written alike. Main statement: `rank_eq_of_plain_eq`.

About `SPEC_FULL.md` §3 (lines 47–48).
-/

namespace QueryTemplates

/-- The characters are decimal digits, at least one. -/
structure IsDigits (cs : List Char) : Prop where
  ne_nil : cs ≠ []
  isDigit : ∀ c ∈ cs, c.isDigit = true

/-- An integer is written in digits, and at least one. -/
theorem isDigits_toDigits (n : Nat) : IsDigits (Nat.toDigits 10 n) :=
  ⟨Nat.toDigits_ne_nil, fun _ => isDigit_of_mem_digits⟩

/-- Among digits there is no other character. -/
theorem IsDigits.notMem {cs : List Char} (h : IsDigits cs) {c : Char} (hc : c.isDigit = false) :
    c ∉ cs := by
  intro hmem
  rw [h.isDigit c hmem] at hc
  cases hc

theorem isDigit_of_mem_zeros {count : Nat} {c : Char} (h : c ∈ List.replicate count '0') :
    c.isDigit = true := by
  obtain rfl := List.eq_of_mem_replicate h
  rfl

namespace Decimal

/-! ### A point among the digits -/

/-- The digits are written without a power of ten. -/
def Positional (d : Decimal) : Prop := -4 < d.point ∧ d.point ≤ 16

/-- The digits in front of the point. -/
def wholeDigits (d : Decimal) : List Char :=
  if d.point ≤ 0 then ['0'] else (Layout.padZeros d.digits d.point.toNat).take d.point.toNat

/-- The digits behind the point, at least one. -/
def fractionDigits (d : Decimal) : List Char :=
  Layout.padZeros (List.replicate (-d.point).toNat '0' ++ d.digits.drop d.point.toNat)
    (max 0 (d.point + 1) - d.point).toNat

variable {d : Decimal}

theorem length_padZeros (cs : List Char) (length : Nat) :
    (Layout.padZeros cs length).length = max cs.length length := by
  rw [Layout.padZeros, List.length_append, List.length_replicate]
  omega

theorem fractionDigits_ne_nil (d : Decimal) : d.fractionDigits ≠ [] := by
  apply List.ne_nil_of_length_pos
  rw [fractionDigits, length_padZeros]
  omega

/-- Positional digits are written around a point. -/
theorem plain_of_positional (h : d.Positional) :
    Layout.plain false d = d.wholeDigits ++ '.' :: d.fractionDigits := by
  have hexponent : (decide (d.point ≤ -4) || decide (16 < d.point)) = false := by
    have := h.1
    have := h.2
    simp
    omega
  have hfraction : d.fractionDigits.isEmpty = false := by
    simpa using d.fractionDigits_ne_nil
  simp only [Layout.plain, Layout.write, hexponent, Bool.false_eq_true, if_false, Bool.not_false,
    Bool.and_self, if_true, List.append_nil]
  rw [← fractionDigits, hfraction]
  rfl

/-- In front of the point there are digits only. -/
theorem isDigits_wholeDigits (hdigits : d.AllDigits) : IsDigits d.wholeDigits := by
  unfold wholeDigits
  by_cases h : d.point ≤ 0
  · rw [if_pos h]
    exact ⟨by simp, by simp⟩
  · rw [if_neg h]
    constructor
    · apply List.ne_nil_of_length_pos
      rw [List.length_take, length_padZeros]
      omega
    · intro c hc
      exact Layout.isDigit_of_mem_padZeros hdigits (List.mem_of_mem_take hc)

/-- Behind the point there are digits only. -/
theorem isDigits_fractionDigits (hdigits : d.AllDigits) : IsDigits d.fractionDigits := by
  refine ⟨d.fractionDigits_ne_nil, fun c hc => Layout.isDigit_of_mem_padZeros ?_ hc⟩
  intro c hc
  rcases List.mem_append.mp hc with hc | hc
  · exact isDigit_of_mem_zeros hc
  · exact hdigits c (List.mem_of_mem_drop hc)

/-- The digits in front of the point and behind it are the digits with zeros around them. -/
theorem exists_zeros (d : Decimal) :
    ∃ before behind, d.wholeDigits ++ d.fractionDigits
        = List.replicate before '0' ++ (d.digits ++ List.replicate behind '0') ∧
      (d.fractionDigits.length : Int) = d.digits.length + behind - d.point := by
  generalize hlength : (max 0 (d.point + 1) - d.point).toNat = length
  have hlength' : length = (max 0 (d.point + 1) - d.point).toNat := hlength.symm
  unfold wholeDigits fractionDigits
  rw [hlength]
  by_cases h : d.point ≤ 0
  · have hdrop : d.point.toNat = 0 := by omega
    refine ⟨(-d.point).toNat + 1, length - ((-d.point).toNat + d.digits.length), ?_, ?_⟩
    · simp [h, hdrop, Layout.padZeros, List.replicate_succ]
    · simp [hdrop, Layout.padZeros]
      omega
  · have hnone : (-d.point).toNat = 0 := by omega
    obtain ⟨place, hplace⟩ : ∃ place : Nat, d.point = place := ⟨d.point.toNat, by omega⟩
    rw [if_neg h, hnone, hplace, Int.toNat_natCast, List.replicate_zero, List.nil_append]
    by_cases hlong : d.digits.length ≤ place
    · refine ⟨0, place - d.digits.length + length, ?_, ?_⟩
      · simp [Layout.padZeros, hlong, List.take_of_length_le, List.drop_eq_nil_of_le]
      · simp [Layout.padZeros, hlong]
        omega
    · refine ⟨0, length - (d.digits.length - place), ?_, ?_⟩
      · have hzeros : place - d.digits.length = 0 := by omega
        simp [Layout.padZeros, hzeros, ← List.append_assoc]
      · simp [Layout.padZeros]
        omega

/-- The digits in front of the point and behind it tell the value. -/
theorem value_eq_div (d : Decimal) :
    d.value = Nat.ofDigitChars 10 (d.wholeDigits ++ d.fractionDigits) 0
      / 10 ^ (d.fractionDigits.length : Int) := by
  obtain ⟨before, behind, hdigits, hlength⟩ := d.exists_zeros
  have hbefore : Nat.ofDigitChars 10 (List.replicate before '0') 0 = 0 := by
    rw [Nat.ofDigitChars_replicate_zero, Nat.mul_zero]
  rw [hdigits, Nat.ofDigitChars_append, hbefore, ofDigitChars_append_zeros, hlength, value,
    eq_div_iff (ten_zpow_pos _).ne', mul_assoc, ← ten_zpow_add, Nat.cast_mul, cast_powerOfTen,
    mul_comm]
  congr 2
  omega

/-! ### A power of ten behind the digits -/

/-- The digits with a point behind the first one, if there are more. -/
def mantissa : List Char → List Char
  | first :: second :: rest => first :: '.' :: second :: rest
  | digits => digits

/-- Other digits are written with a power of ten. -/
theorem plain_of_not_positional (h : ¬d.Positional) (hdigits : d.digits ≠ []) :
    Layout.plain false d = mantissa d.digits ++ Layout.exponentText (d.point - 1) := by
  have hexponent : (decide (d.point ≤ -4) || decide (16 < d.point)) = true := by
    rw [Positional] at h
    simp
    omega
  simp only [Layout.plain, Layout.write, hexponent, if_true]
  cases hfirst : d.digits with
  | nil => exact absurd hfirst hdigits
  | cons first rest => cases rest <;> simp [Layout.padZeros, mantissa]

theorem mem_mantissa {digits : List Char} {c : Char} (h : c ∈ mantissa digits) :
    c ∈ digits ∨ c = '.' := by
  unfold mantissa at h
  split at h
  · simp only [List.mem_cons] at h ⊢
    tauto
  · exact .inl h

/-- The digits are what is left of the mantissa without its point. -/
theorem filter_mantissa {digits : List Char} (h : '.' ∉ digits) :
    (mantissa digits).filter (· ≠ '.') = digits := by
  have hall : digits.filter (· ≠ '.') = digits := by
    rw [List.filter_eq_self]
    intro c hc
    simpa using fun heq : c = '.' => h (heq ▸ hc)
  unfold mantissa
  split
  · next first second rest =>
    have hfirst : first ≠ '.' := fun heq => h (by simp [heq])
    rw [List.filter_cons_of_pos (by simpa using hfirst)] at hall ⊢
    rw [List.filter_cons_of_neg (by simp), (List.cons.inj hall).2]
  · exact hall

/-- An exponent begins with its letter and holds no other one. -/
theorem exists_exponentText_eq (exponent : Int) :
    ∃ behind, Layout.exponentText exponent = 'e' :: behind ∧ 'e' ∉ behind := by
  refine ⟨_, rfl, ?_⟩
  have hdigits := (isDigits_toDigits exponent.natAbs).notMem (show 'e'.isDigit = false from rfl)
  split <;> split <;> simp [hdigits]

theorem exponentText_injective {m n : Int} (h : Layout.exponentText m = Layout.exponentText n) :
    m = n := by
  have hvalue (k : Int) : Nat.ofDigitChars 10 ((Layout.exponentText k).drop 2) 0 = k.natAbs := by
    unfold Layout.exponentText
    dsimp only [List.drop]
    split
    · exact Nat.ofDigitChars_ten_toDigits
    · exact Nat.ofDigitChars_ten_toDigits
  have hsign (k : Int) : (Layout.exponentText k).tail.head? = some (if k < 0 then '-' else '+') :=
    rfl
  have hnatAbs : m.natAbs = n.natAbs := by rw [← hvalue, h, hvalue]
  have hsigns := (hsign m).symm.trans ((congrArg (·.tail.head?) h).trans (hsign n))
  by_cases hm : m < 0 <;> by_cases hn : n < 0
  · omega
  · simp [hm, hn] at hsigns
  · simp [hm, hn] at hsigns
  · omega

/-! ### What a text tells -/

theorem notMem_digits (hdigits : d.AllDigits) {c : Char} (hc : c.isDigit = false) :
    c ∉ d.digits := by
  intro hmem
  rw [hdigits c hmem] at hc
  cases hc

/-- The letter of the exponent does not stand in front of it. -/
theorem notMem_mantissa (hdigits : d.AllDigits) : 'e' ∉ mantissa d.digits := by
  intro hmem
  rcases mem_mantissa hmem with hmem | heq
  · exact notMem_digits hdigits rfl hmem
  · cases heq

/-- Only a power of ten is marked by a letter. -/
theorem mem_plain_iff (hdigits : d.AllDigits) (hne : d.digits ≠ []) :
    'e' ∈ Layout.plain false d ↔ ¬d.Positional := by
  by_cases h : d.Positional
  · rw [plain_of_positional h]
    have hwhole := (isDigits_wholeDigits hdigits).notMem (show 'e'.isDigit = false from rfl)
    have hfraction := (isDigits_fractionDigits hdigits).notMem (show 'e'.isDigit = false from rfl)
    simp [h, hwhole, hfraction]
  · rw [plain_of_not_positional h hne]
    simp [h, Layout.exponentText]

/-- Digits that are written alike stand for the same value. -/
theorem value_eq_of_plain_eq {d d' : Decimal} (hdigits : d.AllDigits) (hdigits' : d'.AllDigits)
    (hne : d.digits ≠ []) (hne' : d'.digits ≠ [])
    (h : Layout.plain false d = Layout.plain false d') : d.value = d'.value := by
  have hpositional : d.Positional ↔ d'.Positional := by
    rw [← not_iff_not, ← mem_plain_iff hdigits hne, h, mem_plain_iff hdigits' hne']
  by_cases hd : d.Positional
  · rw [plain_of_positional hd, plain_of_positional (hpositional.mp hd)] at h
    have hpoint : '.'.isDigit = false := rfl
    obtain ⟨hwhole, -, hfraction⟩ := (List.append_cons_inj_of_notMem
      ((isDigits_wholeDigits hdigits').notMem hpoint)
      ((isDigits_fractionDigits hdigits').notMem hpoint)).mp h.symm
    rw [value_eq_div, value_eq_div, hwhole, hfraction]
  · rw [plain_of_not_positional hd hne, plain_of_not_positional (mt hpositional.mpr hd) hne'] at h
    obtain ⟨behind, hbehind, hmark⟩ := exists_exponentText_eq (d.point - 1)
    obtain ⟨behind', hbehind', hmark'⟩ := exists_exponentText_eq (d'.point - 1)
    rw [hbehind, hbehind'] at h
    obtain ⟨hmantissa, -, rfl⟩ := (List.append_cons_inj_of_notMem
      (notMem_mantissa hdigits') hmark').mp h.symm
    have hpoint := exponentText_injective (hbehind.trans hbehind'.symm)
    have hsame : d.digits = d'.digits := by
      rw [← filter_mantissa (notMem_digits hdigits rfl), ← hmantissa,
        filter_mantissa (notMem_digits hdigits' rfl)]
    rw [value, value, hsame, show d.point = d'.point by omega]

end Decimal

/-! ### Magnitudes -/

/-- A number other than zero has digits. -/
theorem digits_shortest_ne_nil {rank : Nat} (h : rank ≠ 0) :
    (Decimal.shortest rank).digits ≠ [] := by
  intro hnil
  have hpos := (Decimal.readsBack_shortest h).pos
  rw [Decimal.value, hnil] at hpos
  simp at hpos

/-- Different magnitudes are written differently. -/
theorem rank_eq_of_plain_eq {rank rank' : Nat} (h : rank ≠ 0) (h' : rank' ≠ 0)
    (heq : Layout.plain false (Decimal.shortest rank)
      = Layout.plain false (Decimal.shortest rank')) : rank = rank' := by
  have hvalue := Decimal.value_eq_of_plain_eq (Decimal.allDigits_shortest rank)
    (Decimal.allDigits_shortest rank') (digits_shortest_ne_nil h) (digits_shortest_ne_nil h') heq
  have hreads := Decimal.readsBack_shortest h
  rw [hvalue] at hreads
  exact hreads.unique (Decimal.readsBack_shortest h')

end QueryTemplates
