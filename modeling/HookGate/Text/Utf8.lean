/-! # UTF-8

Reading texts from bytes. `decode?` refuses bytes that are not UTF-8; `decodeLossy` puts a replacement character for
each maximal piece of a broken sequence. -/
namespace HookGate.Text

/-- One step of decoding: the character, or none for a broken sequence, and how many bytes it took. -/
structure Utf8Step where
  char? : Option Char
  width : Nat

/-- Whether a byte continues a sequence. -/
def isContinuation (b : UInt8) : Bool := 0x80 ≤ b && b ≤ 0xBF

/-- The lowest and highest second byte that may follow a first byte. -/
private def secondByteBounds (b : UInt8) : UInt8 × UInt8 :=
  if b = 0xE0 then (0xA0, 0xBF) else if b = 0xED then (0x80, 0x9F)
  else if b = 0xF0 then (0x90, 0xBF) else if b = 0xF4 then (0x80, 0x8F) else (0x80, 0xBF)

private def low6 (b : UInt8) : Nat := b.toNat % 0x40

/-- Decodes the sequence that starts with `b` and may go on with `rest`. -/
def utf8Step (b : UInt8) (rest : List UInt8) : Utf8Step :=
  let fits (c : UInt8) : Bool := (secondByteBounds b).1 ≤ c && c ≤ (secondByteBounds b).2
  if b < 0x80 then ⟨some (Char.ofNat b.toNat), 1⟩
  else if 0xC2 ≤ b && b ≤ 0xDF then
    match rest with
    | c :: _ => if isContinuation c then ⟨some (Char.ofNat (b.toNat % 0x20 * 0x40 + low6 c)), 2⟩ else ⟨none, 1⟩
    | [] => ⟨none, 1⟩
  else if 0xE0 ≤ b && b ≤ 0xEF then
    match rest with
    | c :: r =>
      if fits c then
        match r with
        | d :: _ =>
          if isContinuation d then
            ⟨some (Char.ofNat ((b.toNat % 0x10 * 0x40 + low6 c) * 0x40 + low6 d)), 3⟩
          else ⟨none, 2⟩
        | [] => ⟨none, 2⟩
      else ⟨none, 1⟩
    | [] => ⟨none, 1⟩
  else if 0xF0 ≤ b && b ≤ 0xF4 then
    match rest with
    | c :: r =>
      if fits c then
        match r with
        | d :: r' =>
          if isContinuation d then
            match r' with
            | e :: _ =>
              if isContinuation e then
                ⟨some (Char.ofNat (((b.toNat % 8 * 0x40 + low6 c) * 0x40 + low6 d) * 0x40 + low6 e)), 4⟩
              else ⟨none, 3⟩
            | [] => ⟨none, 3⟩
          else ⟨none, 2⟩
        | [] => ⟨none, 2⟩
      else ⟨none, 1⟩
    | [] => ⟨none, 1⟩
  else ⟨none, 1⟩

/-- The steps of decoding; `skip` bytes belong to the step before. -/
private def utf8Steps : Nat → List UInt8 → List (Option Char)
  | _, [] => []
  | skip + 1, _ :: r => utf8Steps skip r
  | 0, b :: r =>
    let step := utf8Step b r
    step.char? :: utf8Steps (step.width - 1) r

/-- The text that the bytes spell, if they are UTF-8. -/
def decode? (bytes : List UInt8) : Option String := ((utf8Steps 0 bytes).mapM id).map String.ofList

/-- The text that the bytes spell, with replacement characters for what is not UTF-8. -/
def decodeLossy (bytes : List UInt8) : String :=
  String.ofList ((utf8Steps 0 bytes).map fun c => c.getD (Char.ofNat 0xFFFD))

/-- The bytes of a text. -/
def encode (s : String) : List UInt8 := s.toUTF8.toList

/-- A text that holds bytes: each character stands for the byte of its number. -/
abbrev Octets := String

/-- The bytes as a text that holds them. -/
def toOctets (bytes : List UInt8) : Octets := String.ofList (bytes.map fun b => Char.ofNat b.toNat)

/-- The bytes that a text holds. -/
def ofOctets (s : Octets) : List UInt8 := s.toList.map fun c => UInt8.ofNat c.toNat

end HookGate.Text
