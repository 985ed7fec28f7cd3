/-
Module: KavachNpu.Core.Base64
Layer: Core
Purpose: The base64 codec of the signed artifacts. The decoder trims Unicode white space, drops every `=`,
  skips line breaks and blanks, and accepts the standard and the URL-safe alphabet; the encoder writes
  the standard one with padding.
Trusted boundary: human-reviewed spec
Main exports: decodeBase64, encodeBase64
-/
import Mathlib.Data.List.DropRight
import KavachNpu.Foundation.Bytes

namespace KavachNpu

/-- `char::is_whitespace`: the code points with the Unicode property `White_Space`. -/
def isUnicodeWhitespace (c : Char) : Bool :=
  (0x09 ≤ c.val && c.val ≤ 0x0D) || c.val == 0x20 || c.val == 0x85 || c.val == 0xA0 ||
    c.val == 0x1680 || (0x2000 ≤ c.val && c.val ≤ 0x200A) || c.val == 0x2028 || c.val == 0x2029 ||
    c.val == 0x202F || c.val == 0x205F || c.val == 0x3000

/-- `str::trim`. -/
def trim (text : List Char) : List Char :=
  (text.dropWhile isUnicodeWhitespace).rdropWhile isUnicodeWhitespace

/-- The `match c` of the decoder: a sextet, a character that is skipped, or an error. -/
def sextet (c : Char) : Except String (Option UInt32) :=
  if 'A' ≤ c ∧ c ≤ 'Z' then .ok (some (c.val - 65))
  else if 'a' ≤ c ∧ c ≤ 'z' then .ok (some (c.val - 97 + 26))
  else if '0' ≤ c ∧ c ≤ '9' then .ok (some (c.val - 48 + 52))
  else if c = '+' ∨ c = '-' then .ok (some 62)
  else if c = '/' ∨ c = '_' then .ok (some 63)
  else if c = '\r' ∨ c = '\n' ∨ c = ' ' then .ok none
  else .error ("invalid base64 character '" ++ String.singleton c ++ "'")

/-- The decoding loop, with the bit buffer, the number of buffered bits and the output so far. -/
def decodeLoop : List Char → UInt32 → Nat → List UInt8 → Except String (List UInt8)
  | [], _, _, out => .ok out
  | c :: rest, bits, bitCount, out =>
      match sextet c with
      | .error message => .error message
      | .ok none => decodeLoop rest bits bitCount out
      | .ok (some val) =>
          let bits := (bits <<< 6) ||| val
          let bitCount := bitCount + 6
          if bitCount ≥ 8 then
            let bitCount := bitCount - 8
            let byte := ((bits >>> UInt32.ofNat bitCount) &&& 0xFF).toUInt8
            decodeLoop rest bits bitCount (out ++ [byte])
          else
            decodeLoop rest bits bitCount out

/-- Decodes base64 text. -/
def decodeBase64 (input : String) : Except String (List UInt8) :=
  let clean := (trim input.toList).filter (· != '=')
  decodeLoop clean 0 0 []

/-- The table `B64` of the encoder. -/
def b64 : List Char :=
  "ABCDEFGHIJKLMNOPQRSTUVWXYZabcdefghijklmnopqrstuvwxyz0123456789+/".toList

/-- `B64[i]`; the encoder masks every index to six bits, so the default is never used. -/
def b64At (i : Nat) : Char :=
  b64.getD i '='

/-- The four characters of a chunk of one to three bytes. -/
def encodeChunk (chunk : List UInt8) : List Char :=
  let b0 := (chunk.getD 0 0).toNat
  let b1 := if chunk.length > 1 then (chunk.getD 1 0).toNat else 0
  let b2 := if chunk.length > 2 then (chunk.getD 2 0).toNat else 0
  let triple := (b0 <<< 16) ||| (b1 <<< 8) ||| b2
  [b64At ((triple >>> 18) &&& 0x3f),
    b64At ((triple >>> 12) &&& 0x3f),
    if chunk.length > 1 then b64At ((triple >>> 6) &&& 0x3f) else '=',
    if chunk.length > 2 then b64At (triple &&& 0x3f) else '=']

/-- Encodes bytes to standard base64 text. -/
def encodeBase64 (bytes : List UInt8) : String :=
  String.ofList ((chunks 3 bytes).flatMap encodeChunk)

end KavachNpu
