import ScopeCascade.Json.Decode
import ScopeCascade.Text.Bytes
import ScopeCascade.Text.Digits

/-! Colors, written with hexadecimal digits. -/
namespace ScopeCascade

/-- Red, green, blue and opacity. -/
@[ext]
structure Color where
  r : UInt8
  g : UInt8
  b : UInt8
  a : UInt8
deriving DecidableEq, Inhabited

namespace Color

def opaqueOf (r g b : UInt8) : Color := ⟨r, g, b, 255⟩

/-- What a malformed color stands for. -/
def transparent : Color := ⟨0, 0, 0, 0⟩

def isOpaque (color : Color) : Bool := color.a = 255

/-- The text without one `#` at its front. -/
def dropHash : List Char → List Char
  | '#' :: rest => rest
  | text => text

/-- Why reading a text ends without a color. Only `malformed` says something of the text: the
others are steps that the reading cannot take. -/
inductive Failure
  | malformed
  | slice (start stop : Nat)
  | overflow (value factor : UInt8)
deriving DecidableEq

/-- The byte that the digits between two places denote. -/
def byte (hex : List Char) (start stop : Nat) : Except Failure UInt8 := do
  let some digits := Text.slice? start stop hex | throw (.slice start stop)
  let some value := Text.readHexByte? digits | throw .malformed
  return value

/-- The channel written as one digit, which stands for the digit twice. -/
def short (hex : List Char) (index : Nat) : Except Failure UInt8 := do
  let value ← byte hex index (index + 1)
  if value.toNat * 17 < UInt8.size then return value * 17 else throw (.overflow value 17)

def long (hex : List Char) (index : Nat) : Except Failure UInt8 := byte hex index (index + 2)

/-- Three, four, six or eight digits. -/
def ofDigits (hex : List Char) : Except Failure Color := do
  match Text.byteLength hex with
  | 3 => return opaqueOf (← short hex 0) (← short hex 1) (← short hex 2)
  | 4 => return ⟨← short hex 0, ← short hex 1, ← short hex 2, ← short hex 3⟩
  | 6 => return opaqueOf (← long hex 0) (← long hex 2) (← long hex 4)
  | 8 => return ⟨← long hex 0, ← long hex 2, ← long hex 4, ← long hex 6⟩
  | _ => throw .malformed

/-- Reads a color; white space around it and one `#` before it do not count. -/
def ofChars (text : List Char) : Except Failure Color :=
  let hex := dropHash (Text.trim text)
  if (Text.bytes hex).all Text.isHexByte then ofDigits hex else throw .malformed

def parse? (text : String) : Option Color := (ofChars text.toList).toOption

def hexChar (digit : Nat) : Char := (Nat.digitChar digit).toUpper

def channel (value : UInt8) : List Char :=
  [hexChar (value.toNat / 16), hexChar (value.toNat % 16)]

/-- Two digits for each channel; opacity is left out where the color is opaque. -/
def chars (color : Color) : List Char :=
  '#' :: (channel color.r ++ channel color.g ++ channel color.b ++
    if color.isOpaque then [] else channel color.a)

def text (color : Color) : String := String.ofList color.chars

/-- The color that a text denotes, and the transparent one if it denotes none. -/
def ofText (text : String) : Color := (parse? text).getD transparent

end Color

/-- The channels of a color record that have been read. -/
structure Color.Channels where
  r : Option UInt8 := none
  g : Option UInt8 := none
  b : Option UInt8 := none
  a : Option UInt8 := none

def Color.form : Json.RecordForm Color.Channels where
  name := "Color"
  fields := ["r", "g", "b", "a"]
  required := 4
  start := {}
  set channels name value := do
    match name with
    | "r" => return { channels with r := some (← Json.decodeByte value) }
    | "g" => return { channels with g := some (← Json.decodeByte value) }
    | "b" => return { channels with b := some (← Json.decodeByte value) }
    | "a" => return { channels with a := some (← Json.decodeByte value) }
    | _ => return channels

/-- A color written as a record of its channels. -/
def Color.ofJson (value : Json) : Except Json.DecodeError Color := do
  let channels ← Json.decodeRecord form value
  return ⟨← Json.require "r" channels.r, ← Json.require "g" channels.g,
    ← Json.require "b" channels.b, ← Json.require "a" channels.a⟩

end ScopeCascade
