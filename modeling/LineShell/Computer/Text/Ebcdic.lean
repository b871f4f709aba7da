import LineShell.Computer.Text.Integer

/-!
# EBCDIC

The tables by which bytes of ASCII become bytes of EBCDIC and back.
-/

namespace LineShell

namespace Ebcdic

/-- The bytes that pairs of hexadecimal digits denote. -/
def bytesOf : Text → List UInt8
  | a :: b :: rest => UInt8.ofNat (digitsIn 16 [a, b]) :: bytesOf rest
  | _ => []

/-- A table that is written in rows of hexadecimal digits. -/
def table (rows : List String) : Array UInt8 :=
  (bytesOf (rows.flatMap String.toList)).toArray

/-- The byte of ASCII for each byte of EBCDIC. -/
def toAscii : Array UInt8 :=
  table
    ["000102039c09867f978d8e0b0c0d0e0f101112139d8508871819928f1c1d1e1f",
      "80818283840a171b88898a8b8c050607909116939495960498999a9b14159e1a",
      "20a0a1a2a3a4a5a6a7a8d52e3c282b7c26a9aaabacadaeafb0b121242a293b7e",
      "2d2fb2b3b4b5b6b7b8b9cb2c255f3e3fbabbbcbdbebfc0c1c2603a2340273d22",
      "c3616263646566676869c4c5c6c7c8c9ca6a6b6c6d6e6f7071725ecccdcecfd0",
      "d1e5737475767778797ad2d3d45bd6d7d8d9dadbdcdddedfe0e1e2e3e45de6e7",
      "7b414243444546474849e8e9eaebeced7d4a4b4c4d4e4f505152eeeff0f1f2f3",
      "5c9f535455565758595af4f5f6f7f8f930313233343536373839fafbfcfdfeff"]

/-- The byte of EBCDIC for each byte of ASCII. -/
def ofAscii : Array UInt8 :=
  (Array.range 256).map fun n => UInt8.ofNat ((toAscii.findIdx? (·.toNat = n)).getD 0)

/-- The byte for each byte of ASCII in the variant of EBCDIC that printers know. -/
def ofAsciiForPrinters : Array UInt8 :=
  [(0x5e, 0x5f), (0x7e, 0xa1), (0xcb, 0x9a), (0xd5, 0xad), (0xe5, 0xbd)].foldl
    (fun t (place, byte) => t.setIfInBounds place byte) ofAscii

/-- The entry of a table for a byte. -/
def look (t : Array UInt8) (b : UInt8) : UInt8 :=
  t.getD b.toNat b

end Ebcdic

end LineShell
