import CodeMarkup.Text.CodePoint
import CodeMarkup.Text.Quoted
/-!
UTF-8 read and written strictly. Bytes that are no UTF-8 are described by the first sequence that
breaks the rules: where it is, and in what way it is broken. Texts that have no UTF-8 are described by
the first surrogates in them.
-/

namespace CodeMarkup.Text

/-- In what way a byte sequence breaks the rules of UTF-8. -/
inductive Utf8Break
  /-- The first byte starts no sequence. -/
  | start
  /-- A later byte does not continue the sequence. -/
  | continuation
  /-- The bytes end inside the sequence. -/
  | ending
  deriving DecidableEq, Repr

/-- What is wrong, in words. -/
def Utf8Break.words : Utf8Break → String
  | .start => "invalid start byte"
  | .continuation => "invalid continuation byte"
  | .ending => "unexpected end of data"

/-- The first broken sequence: where its first byte stands, that byte, how many bytes the sequence
takes up, and what is wrong with it. -/
structure Utf8Fault where
  position : Nat
  byte : UInt8
  length : Nat
  kind : Utf8Break
  deriving DecidableEq, Repr

/-- The fault in words. -/
def Utf8Fault.message (fault : Utf8Fault) : String :=
  let place :=
    if fault.length = 1 then
      "byte 0x" ++ String.ofList (hexDigits 2 fault.byte.toNat) ++ s!" in position {fault.position}"
    else s!"bytes in position {fault.position}-{fault.position + fault.length - 1}"
  "'utf-8' codec can't decode " ++ place ++ ": " ++ fault.kind.words

/-- Whether a byte continues a sequence. -/
def isContinuation (b : UInt8) : Bool := 0x80 ≤ b && b ≤ 0xBF

/-- Whether a byte may follow the first byte of a sequence of several: overlong forms, surrogates
and code points past the last one are cut out here. -/
def isSecond (first b : UInt8) : Bool :=
  isContinuation b &&
    (if first = 0xE0 then 0xA0 ≤ b
     else if first = 0xED then b ≤ 0x9F
     else if first = 0xF0 then 0x90 ≤ b
     else if first = 0xF4 then b ≤ 0x8F
     else true)

/-- How many bytes the sequence takes that starts with this byte. -/
def sequenceLength? (first : UInt8) : Option Nat :=
  if first ≤ 0x7F then some 1
  else if 0xC2 ≤ first && first ≤ 0xDF then some 2
  else if 0xE0 ≤ first && first ≤ 0xEF then some 3
  else if 0xF0 ≤ first && first ≤ 0xF4 then some 4
  else none

/-- How many of the bytes, at most `wanted`, continue a sequence. -/
def continuations (wanted : Nat) (bytes : List UInt8) : Nat :=
  ((bytes.take wanted).takeWhile isContinuation).length

/-- The length of the sequence that starts with `first`, or how many bytes a broken one takes up and
what is wrong with it. -/
def sequence (first : UInt8) (rest : List UInt8) : Except (Nat × Utf8Break) Nat :=
  match sequenceLength? first with
  | none => .error (1, .start)
  | some 1 => .ok 1
  | some length =>
    match rest with
    | [] => .error (1, .ending)
    | second :: later =>
      if !isSecond first second then .error (1, .continuation)
      else
        let found := 2 + continuations (length - 2) later
        if found = length then .ok length
        else if rest.length + 1 = found then .error (found, .ending)
        else .error (found, .continuation)

/-- The first broken sequence at or after `position`, where `skip` bytes still belong to the sequence
before. -/
def firstFault (position skip : Nat) : List UInt8 → Option Utf8Fault
  | [] => none
  | byte :: rest =>
    match skip with
    | skip + 1 => firstFault (position + 1) skip rest
    | 0 =>
      match sequence byte rest with
      | .error (length, kind) => some ⟨position, byte, length, kind⟩
      | .ok length => firstFault (position + 1) (length - 1) rest

/-- The text that the bytes encode. -/
def decodeUtf8 (bytes : ByteArray) : Except Utf8Fault String :=
  match String.fromUTF8? bytes with
  | some text => .ok text
  | none => .error ((firstFault 0 0 bytes.toList).getD ⟨0, 0, 1, .start⟩)

/-- The encoding of a text is read as that text. -/
theorem decodeUtf8_toUTF8 (s : String) : decodeUtf8 s.toUTF8 = .ok s := by
  have h : String.fromUTF8? s.toUTF8 = some s := dif_pos s.isValidUTF8
  simp only [decodeUtf8, h]

/-! ## Writing -/

/-- The first surrogates of a text: how many code points come before them, the first of them, and how
many others follow it at once. -/
structure SurrogateFault where
  position : Nat
  first : Fin 0x800
  more : Nat
  deriving DecidableEq, Repr

/-- The fault in words. -/
def SurrogateFault.message (fault : SurrogateFault) : String :=
  let place :=
    if fault.more = 0 then
      "character '" ++ String.ofList (unitEscape (CodePoint.surrogate fault.first).toNat) ++
        s!"' in position {fault.position}"
    else s!"characters in position {fault.position}-{fault.position + fault.more}"
  "'utf-8' codec can't encode " ++ place ++ ": surrogates not allowed"

/-- The first surrogates at or after `position`. -/
def firstSurrogates? (position : Nat) : CodePoints → Option SurrogateFault
  | [] => none
  | .char _ :: rest => firstSurrogates? (position + 1) rest
  | .surrogate first :: rest =>
    some ⟨position, first, (rest.takeWhile fun point => point.char?.isNone).length⟩

/-- The string that a text is, which UTF-8 can encode, or what keeps it from being one. -/
def encodable (s : CodePoints) : Except SurrogateFault String :=
  match CodePoints.string? s with
  | some s => .ok s
  | none => .error ((firstSurrogates? 0 s).getD ⟨0, 0, 0⟩)

/-- Strings can be encoded. -/
theorem encodable_ofString (s : String) : encodable s = .ok s := by
  simp [encodable]

/-- A code point, or the escape of a surrogate. -/
def escapeSurrogate : CodePoint → List Char
  | .char c => [c]
  | point => unitEscape point.toNat

/-- A text with escapes in place of its surrogates. -/
def escapeSurrogates (s : CodePoints) : String := String.ofList (s.flatMap escapeSurrogate)

end CodeMarkup.Text
