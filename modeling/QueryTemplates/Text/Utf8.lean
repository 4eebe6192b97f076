/-!
# UTF-8

Bytes become text, or the first fault is named together with the bytes it covers: a byte that
starts no character, a byte that does not continue the one begun, or an end in the middle of a
character. Overlong forms, surrogates and numbers beyond Unicode count as a second byte that does
not continue the first.
-/

namespace QueryTemplates

/-- What is wrong at the first byte that cannot be read. -/
inductive Utf8Fault where
  | invalidStart
  | invalidContinuation
  | unexpectedEnd
deriving DecidableEq

/-- A place that is not UTF-8: the bytes from `start` up to `stop`, the first of which is `byte`. -/
structure Utf8Error where
  fault : Utf8Fault
  byte : UInt8
  start : Nat
  stop : Nat
deriving DecidableEq

/-- The fault in words. -/
def Utf8Fault.text : Utf8Fault → String
  | .invalidStart => "invalid start byte"
  | .invalidContinuation => "invalid continuation byte"
  | .unexpectedEnd => "unexpected end of data"

/-- A byte as two hexadecimal digits. -/
def byteText (b : UInt8) : String :=
  String.ofList [Nat.digitChar (b.toNat / 16), Nat.digitChar (b.toNat % 16)]

/-- The place and the fault in words. -/
def Utf8Error.message (e : Utf8Error) : String :=
  "'utf-8' codec can't decode "
    ++ (if e.stop = e.start + 1 then
        "byte 0x" ++ byteText e.byte ++ " in position " ++ toString e.start
      else "bytes in position " ++ toString e.start ++ "-" ++ toString (e.stop - 1))
    ++ ": " ++ e.fault.text

/-- The byte is one of those that continue a character. -/
def isContinuation (b : UInt8) : Bool := 0x80 ≤ b && b < 0xc0

/-- The second byte of a character may follow the first: three-byte and four-byte forms exclude
overlong forms, surrogates and numbers beyond Unicode already here. -/
def continuesFirst (first second : UInt8) : Bool :=
  isContinuation second &&
    (if first == 0xe0 then 0xa0 ≤ second
     else if first == 0xed then second < 0xa0
     else if first == 0xf0 then 0x90 ≤ second
     else if first == 0xf4 then second < 0x90
     else true)

/-- The byte may stand at place `taken` of the character begun by `first`. -/
def continuesAt (first : UInt8) (taken : Nat) (b : UInt8) : Bool :=
  if taken = 1 then continuesFirst first b else isContinuation b

/-- How many bytes follow a first byte. -/
def followers? (first : UInt8) : Option Nat :=
  if first < 0x80 then some 0
  else if first < 0xc2 then none
  else if first < 0xe0 then some 1
  else if first < 0xf0 then some 2
  else if first < 0xf5 then some 3
  else none

/-- The bits a first byte contributes when `count` bytes follow it. -/
def leadBits (first : UInt8) (count : Nat) : Nat :=
  match count with
  | 0 => first.toNat
  | 1 => first.toNat % 0x20
  | 2 => first.toNat % 0x10
  | _ => first.toNat % 0x08

/-- Reads the following bytes of a character of which `taken` bytes are read: its number and the
bytes behind it, or the fault and the number of bytes it covers. -/
def readFollowers (first : UInt8) : Nat → Nat → Nat → List UInt8 →
    Except (Utf8Fault × Nat) (Nat × List UInt8)
  | 0, _, value, rest => .ok (value, rest)
  | _ + 1, taken, _, [] => .error (.unexpectedEnd, taken)
  | count + 1, taken, value, b :: rest =>
    if continuesAt first taken b then
      readFollowers first count (taken + 1) (value * 64 + b.toNat % 64) rest
    else .error (.invalidContinuation, taken)

/-- Bytes that follow the first one of a character are taken off the front. -/
theorem length_readFollowers {first : UInt8} {count taken value : Nat} {bytes rest : List UInt8}
    {n : Nat} (h : readFollowers first count taken value bytes = .ok (n, rest)) :
    rest.length ≤ bytes.length := by
  induction count generalizing taken value bytes with
  | zero => simp only [readFollowers, Except.ok.injEq, Prod.mk.injEq] at h; simp [h.2]
  | succ count ih =>
    cases bytes with
    | nil => simp [readFollowers] at h
    | cons b bytes =>
      simp only [readFollowers] at h
      split at h
      · have := ih h
        simp only [List.length_cons]
        omega
      · simp at h

/-- Reads all characters; `start` is the place of the first byte. -/
def decodeUtf8From (start : Nat) (bytes : List UInt8) : Except Utf8Error (List Char) :=
  match bytes with
  | [] => .ok []
  | first :: rest =>
    match followers? first with
    | none => .error ⟨.invalidStart, first, start, start + 1⟩
    | some count =>
      match h : readFollowers first count 1 (leadBits first count) rest with
      | .error (fault, covered) => .error ⟨fault, first, start, start + covered⟩
      | .ok (n, behind) =>
        (decodeUtf8From (start + 1 + count) behind).map (Char.ofNat n :: ·)
termination_by bytes.length
decreasing_by exact Nat.lt_succ_of_le (length_readFollowers h)

/-- The text that the bytes encode. -/
def decodeUtf8 (bytes : List UInt8) : Except Utf8Error String :=
  (decodeUtf8From 0 bytes).map String.ofList

/-- The bytes that encode a text. -/
def encodeUtf8 (s : String) : List UInt8 := s.toUTF8.toList

/-- The characters with every line end written as a single line feed. -/
def unifyLineEndChars : List Char → List Char
  | '\r' :: '\n' :: rest => '\n' :: unifyLineEndChars rest
  | '\r' :: rest => '\n' :: unifyLineEndChars rest
  | c :: rest => c :: unifyLineEndChars rest
  | [] => []

/-- The text with every line end written as a single line feed. -/
def unifyLineEnds (s : String) : String := String.ofList (unifyLineEndChars s.toList)

end QueryTemplates
