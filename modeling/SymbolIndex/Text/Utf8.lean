import SymbolIndex.Text.Basic

/-! UTF-8: bytes of a text, texts of bytes, and what is wrong with bytes that spell no text. A
sequence is refused at the first byte that rules it out; what came before that byte is reported. -/
namespace SymbolIndex

inductive Utf8Fault
  | startByte
  | continuationByte
  | unexpectedEnd
deriving DecidableEq

/-- A refused sequence: where it starts, how many bytes are reported, and the first of them. -/
structure Utf8Error where
  position : Nat
  length : Nat
  byte : UInt8
  fault : Utf8Fault
deriving DecidableEq

def Utf8Fault.text : Utf8Fault → Text
  | .startByte => "invalid start byte".toList
  | .continuationByte => "invalid continuation byte".toList
  | .unexpectedEnd => "unexpected end of data".toList

def Utf8Error.message (error : Utf8Error) : Text :=
  let place :=
    if error.length = 1 then
      "byte 0x".toList ++ [Nat.digitChar (error.byte.toNat / 16), Nat.digitChar (error.byte.toNat % 16)]
        ++ " in position ".toList ++ Text.ofNat error.position
    else
      "bytes in position ".toList ++ Text.ofNat error.position ++ '-' ::
        Text.ofNat (error.position + error.length - 1)
  "'utf-8' codec can't decode ".toList ++ place ++ ": ".toList ++ error.fault.text

namespace Utf8

def encodeChar (c : Char) : List UInt8 :=
  let n := c.toNat
  let tail (shift : Nat) : UInt8 := UInt8.ofNat (0x80 + n / shift % 64)
  if n < 0x80 then [UInt8.ofNat n]
  else if n < 0x800 then [UInt8.ofNat (0xC0 + n / 64), tail 1]
  else if n < 0x10000 then [UInt8.ofNat (0xE0 + n / 4096), tail 64, tail 1]
  else [UInt8.ofNat (0xF0 + n / 262144), tail 4096, tail 64, tail 1]

def encode (text : Text) : List UInt8 := text.flatMap encodeChar

/-- How many bytes a lead byte announces; none for a byte that cannot lead. -/
def announced (lead : UInt8) : Nat :=
  let n := lead.toNat
  if n < 0x80 then 1
  else if n < 0xC2 then 0
  else if n < 0xE0 then 2
  else if n < 0xF0 then 3
  else if n < 0xF5 then 4
  else 0

/-- Whether a byte may follow a lead byte directly. Overlong forms, surrogates and code points
beyond the last one are ruled out here. -/
def maySecond (lead second : UInt8) : Bool :=
  let low := if lead = 0xE0 then 0xA0 else if lead = 0xF0 then 0x90 else 0x80
  let high := if lead = 0xED then 0x9F else if lead = 0xF4 then 0x8F else 0xBF
  low ≤ second.toNat && second.toNat ≤ high

/-- Whether a byte may continue a sequence beyond its second byte. -/
def mayContinue (byte : UInt8) : Bool := 0x80 ≤ byte.toNat && byte.toNat ≤ 0xBF

def assemble (lead : UInt8) (tail : List UInt8) : Nat :=
  let high :=
    match tail.length with
    | 0 => lead.toNat
    | 1 => lead.toNat % 32
    | 2 => lead.toNat % 16
    | _ => lead.toNat % 8
  tail.foldl (fun n byte => n * 64 + byte.toNat % 64) high

inductive Reading
  | character (c : Char)
  | incomplete
  | refused (length : Nat) (fault : Utf8Fault)

def readSequence (lead : UInt8) (rest : List UInt8) : Reading :=
  match announced lead with
  | 0 => .refused 1 .startByte
  | 1 => .character (Char.ofNat lead.toNat)
  | size =>
    match rest with
    | [] => .incomplete
    | second :: _ =>
      if maySecond lead second then
        let valid := second :: (rest.drop 1 |>.take (size - 2) |>.takeWhile mayContinue)
        if valid.length = size - 1 then
          .character (Char.ofNat (assemble lead valid))
        else if rest.length ≤ valid.length then .incomplete
        else .refused (1 + valid.length) .continuationByte
      else .refused 1 .continuationByte

/-- Text read so far and how the reading stopped: at the end, at an incomplete sequence, or at a
refused one. -/
structure Partial where
  text : Text
  pending : List UInt8
  error : Option Utf8Error

/-- Read bytes from the given position on, once `skip` bytes of a sequence are passed. -/
def readFrom (position skip : Nat) : List UInt8 → Partial
  | [] => ⟨[], [], none⟩
  | byte :: rest =>
    match skip with
    | left + 1 => readFrom (position + 1) left rest
    | 0 =>
      match readSequence byte rest with
      | .character c =>
        let later := readFrom (position + 1) (announced byte - 1) rest
        { later with text := c :: later.text }
      | .incomplete => ⟨[], byte :: rest, none⟩
      | .refused length fault => ⟨[], [], some ⟨position, length, byte, fault⟩⟩

/-- Bytes that end in the middle of a sequence. -/
def cutOff (position : Nat) : List UInt8 → Option Utf8Error
  | [] => none
  | byte :: rest => some ⟨position, rest.length + 1, byte, .unexpectedEnd⟩

/-- The text that all the bytes spell. -/
def decode (bytes : List UInt8) : Except Utf8Error Text :=
  let read := readFrom 0 0 bytes
  match read.error, cutOff (bytes.length - read.pending.length) read.pending with
  | some error, _ => .error error
  | none, some error => .error error
  | none, none => .ok read.text

/-- How many bytes are read at a time where a file is read line by line. -/
def blockSize : Nat := 8192

theorem length_drop_blockSize_lt {bytes : List UInt8} (nonempty : bytes ≠ []) :
    (bytes.drop blockSize).length < bytes.length := by
  have := List.length_pos_iff.mpr nonempty
  simp only [List.length_drop, blockSize]
  omega

/-- Read block by block: the text up to the first block that is refused, and the error. Positions
count from the start of the block, an incomplete sequence carried over from the block before
included; bytes missing at the very end are reported at position zero. -/
def decodeBlocks (pending : List UInt8) (bytes : List UInt8) : Text × Option Utf8Error :=
  if _ : bytes = [] then ([], cutOff 0 pending)
  else
    let read := readFrom 0 0 (pending ++ bytes.take blockSize)
    match read.error with
    | some error => ([], some error)
    | none =>
      let (text, error) := decodeBlocks read.pending (bytes.drop blockSize)
      (read.text ++ text, error)
termination_by bytes.length
decreasing_by
  exact length_drop_blockSize_lt (by assumption)

end Utf8
end SymbolIndex
