/-!
# Text of files

Decoding of UTF-8 with the place and the reason of the first error, and universal line ends.
-/

namespace PageComposer.Files

/-- Why bytes are not UTF-8: the first offending byte, how many bytes the report covers, and the
reason. -/
structure DecodingError where
  start : Nat
  length : Nat
  byte : UInt8
  reason : String

def hexByte (b : UInt8) : String :=
  let digits := Nat.toDigits 16 b.toNat
  String.ofList (List.replicate (2 - digits.length) '0' ++ digits)

def DecodingError.message (e : DecodingError) : String :=
  if e.length = 1 then
    "'utf-8' codec can't decode byte 0x" ++ hexByte e.byte ++ " in position "
      ++ toString e.start ++ ": " ++ e.reason
  else
    "'utf-8' codec can't decode bytes in position " ++ toString e.start ++ "-"
      ++ toString (e.start + e.length - 1) ++ ": " ++ e.reason

def isContinuation (b : UInt8) : Bool :=
  b &&& 0xC0 == 0x80

/-- The number of continuation bytes that a first byte asks for. -/
def continuationCount? (b : UInt8) : Option Nat :=
  if b < 0x80 then some 0
  else if b < 0xC2 then none
  else if b < 0xE0 then some 1
  else if b < 0xF0 then some 2
  else if b < 0xF5 then some 3
  else none

/-- Whether a second byte may follow a first one: some pairs would write a character in more bytes
than needed, a surrogate, or a number beyond the last character. -/
def allowsSecond (first second : UInt8) : Bool :=
  isContinuation second
    && !(first == 0xE0 && second < 0xA0) && !(first == 0xED && second ≥ 0xA0)
    && !(first == 0xF0 && second < 0x90) && !(first == 0xF4 && second ≥ 0x90)

/-- How many of the next bytes continue the character that starts with `first`. -/
def goodContinuations (first : UInt8) (wanted : Nat) (rest : List UInt8) : Nat :=
  match rest with
  | [] => 0
  | second :: more =>
    if wanted = 0 || !allowsSecond first second then 0
    else 1 + ((more.take (wanted - 1)).takeWhile isContinuation).length

/-- The number that the bytes of one character write. -/
def codePoint (first : UInt8) (rest : List UInt8) : Nat :=
  let lead := match rest.length with
    | 0 => first.toNat
    | 1 => (first &&& 0x1F).toNat
    | 2 => (first &&& 0x0F).toNat
    | _ => (first &&& 0x07).toNat
  rest.foldl (fun n b => n * 64 + (b &&& 0x3F).toNat) lead

/-- Decodes bytes that start at offset `start`. The first `pending` of them belong to the character
decoded last; `text` holds what was decoded, newest first. -/
def decodeFrom (start pending : Nat) (text : List Char) :
    List UInt8 → Except DecodingError (List Char)
  | [] => .ok text.reverse
  | first :: rest =>
    if pending > 0 then decodeFrom (start + 1) (pending - 1) text rest
    else
      match continuationCount? first with
      | none => .error ⟨start, 1, first, "invalid start byte"⟩
      | some wanted =>
        let good := goodContinuations first wanted rest
        if good = wanted then
          decodeFrom (start + 1) wanted
            (Char.ofNat (codePoint first (rest.take wanted)) :: text) rest
        else if good = rest.length then
          .error ⟨start, 1 + good, first, "unexpected end of data"⟩
        else .error ⟨start, 1 + good, first, "invalid continuation byte"⟩

/-- Carriage returns, alone or before a line feed, become line feeds. -/
def universalLines : List Char → List Char
  | '\r' :: '\n' :: rest => '\n' :: universalLines rest
  | '\r' :: rest => '\n' :: universalLines rest
  | c :: rest => c :: universalLines rest
  | [] => []

/-- The text that bytes write. -/
def decode (bytes : List UInt8) : Except DecodingError String :=
  (decodeFrom 0 0 [] bytes).map fun cs => String.ofList (universalLines cs)

end PageComposer.Files
