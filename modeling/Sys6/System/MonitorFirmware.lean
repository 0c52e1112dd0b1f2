import Sys6.Memory.Bus

/-!
# The monitor firmware

The hex text of every routine, as the source has it, and the loader that puts it into ROM.
-/

namespace Sys6

namespace monitor

def kRomBase : Word := 0xC000#16
def kRomSize : Nat := 0x4000

def kGetCharAddr : Word := 0xC000#16
def kPutCharAddr : Word := 0xC100#16
def kPrintHexByteAddr : Word := 0xC200#16
def kPrintNibbleAddr : Word := 0xC220#16
def kPrintStringAddr : Word := 0xC300#16
def kHexValAddr : Word := 0xC700#16
def kParseAddrAddr : Word := 0xC500#16
def kParseByteAddr : Word := 0xC600#16
def kDispatchAddr : Word := 0xC800#16
def kPeekAddr : Word := 0xCA00#16
def kListAddr : Word := 0xCB00#16
def kPokeAddr : Word := 0xCC00#16
def kRunAddr : Word := 0xCD00#16
def kReadLineAddr : Word := 0xC400#16
def kBannerAddr : Word := 0xCE00#16
def kPromptAddr : Word := 0xCE0F#16
def kColdStartAddr : Word := 0xCF00#16
def kWarmStartAddr : Word := 0xCF0E#16
def kMainLoopAddr : Word := 0xCF11#16
def kSaveAddr : Word := 0xD000#16
def kLoadAddr : Word := 0xD100#16
def kRewindAddr : Word := 0xD200#16

def kGetCharHex : String := String.join [
  "AD 00 80", "29 01", "F0 F9", "AD 01 80", "60"]

def kPutCharHex : String := String.join [
  "8D 01 80", "60"]

def kPrintHexByteHex : String := String.join [
  "48", "4A", "4A", "4A", "4A", "20 20 C2", "68", "29 0F", "20 20 C2", "60"]

def kPrintNibbleHex : String := String.join [
  "C9 0A", "90 05", "69 36", "4C 00 C1", "69 30", "4C 00 C1"]

def kPrintStringHex : String := String.join [
  "A0 00", "B1 FC", "F0 07", "20 00 C1", "C8", "4C 02 C3", "60"]

def kHexValHex : String := String.join [
  "C9 30", "90 23", "C9 3A", "B0 05", "38", "E9 30", "18", "60", "C9 41", "90 16", "C9 47",
  "B0 05", "38", "E9 37", "18", "60", "C9 61", "90 09", "C9 67", "B0 05", "38", "E9 57", "18",
  "60", "38", "60"]

def kParseAddrHex : String := String.join [
  "A9 00", "85 F0", "85 F1", "85 F5", "A6 41", "E4 40", "B0 24", "B5 00", "20 00 C7", "B0 1D",
  "48", "06 F0", "26 F1", "06 F0", "26 F1", "06 F0", "26 F1", "06 F0", "26 F1", "68", "05 F0",
  "85 F0", "E6 41", "E6 F5", "4C 08 C5", "A5 F5", "F0 02", "18", "60", "38", "60"]

def kParseByteHex : String := String.join [
  "A9 00", "85 F4", "85 F5", "A5 F5", "C9 02", "B0 22", "A6 41", "E4 40", "B0 1C", "B5 00",
  "20 00 C7", "B0 15", "48", "06 F4", "06 F4", "06 F4", "06 F4", "68", "05 F4", "85 F4", "E6 41",
  "E6 F5", "4C 06 C6", "A5 F5", "F0 02", "18", "60", "38", "60"]

def kDispatchHex : String := String.join [
  "A5 41", "C5 40", "90 03", "4C 00 CA", "A6 41", "B5 00", "C9 2E", "F0 0B", "C9 3A", "F0 4D",
  "C9 20", "F0 4E", "4C 88 C8", "E6 41", "A5 F0", "85 F2", "A5 F1", "85 F3", "20 00 C5", "B0 5D",
  "A5 F0", "85 F5", "A5 F1", "85 F6", "A5 F2", "85 F0", "A5 F3", "85 F1", "A5 F5", "85 F2",
  "A5 F6", "85 F3", "A5 41", "C5 40", "90 03", "4C 00 CB", "A6 41", "B5 00", "C9 20", "D0 34",
  "E8", "E4 40", "B0 2F", "B5 00", "C9 53", "D0 29", "4C 00 D0", "E6 41", "4C 00 CC", "A6 41",
  "E8", "E4 40", "B0 1A", "B5 00", "C9 52", "F0 0B", "C9 4C", "F0 0A", "C9 57", "F0 09",
  "4C 88 C8", "4C 00 CD", "4C 00 D1", "4C 00 D2", "A9 3F", "20 00 C1", "A9 0D", "20 00 C1",
  "A9 0A", "20 00 C1", "60"]

def kPeekHex : String := String.join [
  "A5 F1", "20 00 C2", "A5 F0", "20 00 C2", "A9 3A", "20 00 C1", "A9 20", "20 00 C1", "A0 00",
  "B1 F0", "20 00 C2", "A9 0D", "20 00 C1", "A9 0A", "20 00 C1", "60"]

def kListHex : String := String.join [
  "A9 00", "85 F7", "A5 F1", "C5 F3", "90 0A", "D0 4B", "A5 F0", "C5 F2", "F0 02", "B0 43",
  "A5 F7", "D0 14", "A5 F1", "20 00 C2", "A5 F0", "20 00 C2", "A9 3A", "20 00 C1", "A9 20",
  "20 00 C1", "A0 00", "B1 F0", "20 00 C2", "A9 20", "20 00 C1", "E6 F0", "D0 02", "E6 F1",
  "E6 F7", "A5 F7", "C9 10", "90 BE", "A9 0D", "20 00 C1", "A9 0A", "20 00 C1", "A9 00", "85 F7",
  "4C 04 CB", "A5 F7", "F0 0A", "A9 0D", "20 00 C1", "A9 0A", "20 00 C1", "60"]

def kPokeHex : String := String.join [
  "A5 41", "C5 40", "B0 21", "A6 41", "B5 00", "C9 20", "D0 05", "E6 41", "4C 00 CC", "20 00 C6",
  "B0 0F", "A0 00", "A5 F4", "91 F0", "E6 F0", "D0 02", "E6 F1", "4C 00 CC", "60"]

def kRunHex : String := String.join [
  "A9 20", "85 F8", "A5 F0", "85 F9", "A5 F1", "85 FA", "A9 60", "85 FB", "20 F8 00", "60"]

def kReadLineHex : String := String.join [
  "A2 00", "20 00 C0", "C9 0D", "F0 2C", "C9 7F", "F0 11", "C9 08", "F0 0D", "E0 40", "B0 ED",
  "95 00", "20 00 C1", "E8", "4C 02 C4", "E0 00", "F0 E0", "CA", "A9 08", "20 00 C1", "A9 20",
  "20 00 C1", "A9 08", "20 00 C1", "4C 02 C4", "A9 0D", "20 00 C1", "A9 0A", "20 00 C1", "86 40",
  "60"]

def kDataHex : String := String.join [
  "73 79 73 36 20 6D 6F 6E 69 74 6F 72 0D 0A 00", "3E 20 00"]

def kMainHex : String := String.join [
  "A9 00", "85 FC", "A9 CE", "85 FD", "20 00 C3", "4C 11 CF", "A2 FF", "9A", "A9 0F", "85 FC",
  "A9 CE", "85 FD", "20 00 C3", "20 00 C4", "A9 00", "85 41", "20 00 C5", "B0 06", "20 00 C8",
  "4C 11 CF", "A9 3F", "20 00 C1", "A9 0D", "20 00 C1", "A9 0A", "20 00 C1", "4C 11 CF"]

def kSaveHex : String := String.join [
  "AD 02 80", "29 01", "D0 03", "4C 70 D0", "A5 F3", "C5 F1", "90 08", "D0 09", "A5 F2", "C5 F0",
  "B0 03", "4C 70 D0", "A9 01", "8D 03 80", "38", "A5 F2", "E5 F0", "85 42", "A5 F3", "E5 F1",
  "85 43", "E6 42", "D0 02", "E6 43", "A9 00", "85 44", "A5 42", "8D 04 80", "A5 43", "8D 04 80",
  "A5 F1", "C5 F3", "90 0A", "D0 1C", "A5 F0", "C5 F2", "F0 02", "B0 14", "A0 00", "B1 F0",
  "8D 04 80", "45 44", "85 44", "E6 F0", "D0 02", "E6 F1", "4C 41 D0", "A5 44", "8D 04 80",
  "A9 00", "8D 03 80", "60", "A9 3F", "20 00 C1", "A9 0D", "20 00 C1", "A9 0A", "20 00 C1", "60"]

def kLoadHex : String := String.join [
  "AD 02 80", "29 01", "D0 03", "4C 5E D1", "A9 01", "8D 03 80", "20 6E D1", "B0 3C", "85 42",
  "20 6E D1", "B0 35", "85 43", "A9 00", "85 44", "A5 42", "05 43", "F0 20", "20 6E D1", "B0 24",
  "48", "45 44", "85 44", "68", "A0 00", "91 F0", "E6 F0", "D0 02", "E6 F1", "A5 42", "D0 02",
  "C6 43", "C6 42", "4C 21 D1", "20 6E D1", "B0 04", "C5 44", "F0 08", "A9 00", "8D 03 80",
  "4C 5E D1", "A9 00", "8D 03 80", "60", "A9 3F", "20 00 C1", "A9 0D", "20 00 C1", "A9 0A",
  "20 00 C1", "60", "AD 04 80", "48", "AD 02 80", "29 08", "F0 03", "68", "38", "60", "68", "18",
  "60"]

def kRewindHex : String := String.join [
  "AD 02 80", "29 01", "D0 03", "4C 10 D2", "A9 02", "8D 03 80", "60", "A9 3F", "20 00 C1",
  "A9 0D", "20 00 C1", "A9 0A", "20 00 C1", "60"]

def isspace (c : Char) : Bool := [' ', '\t', '\n', '\x0b', '\x0c', '\r'].contains c

def hexDigitValue (c : Char) : Except String Nat :=
  if '0' ≤ c ∧ c ≤ '9' then .ok (c.toNat - '0'.toNat)
  else if 'a' ≤ c ∧ c ≤ 'f' then .ok (c.toNat - 'a'.toNat + 10)
  else if 'A' ≤ c ∧ c ≤ 'F' then .ok (c.toNat - 'A'.toNat + 10)
  else .error "loadRoutine: invalid hex character"

/-- The loop over the digit pairs, from `offset` on. -/
def loadDigits (rom : ROM) (offset : Word) : List Char → Except String ROM
  | d :: d' :: digits => do
    let high ← hexDigitValue d
    let low ← hexDigitValue d'
    loadDigits (rom.load offset (BitVec.ofNat 8 (high <<< 4 ||| low))) (offset + 1#16) digits
  | _ => .ok rom

def loadRoutine (busAddr : Word) (hex : String) (rom : ROM) : Except String ROM :=
  let digits := hex.toList.filter fun c => !isspace c
  if digits.length % 2 ≠ 0 then .error "loadRoutine: hex string has odd digit count"
  else loadDigits rom (busAddr - kRomBase) digits

/-- What `install` loads, in its order, the three vectors last. -/
def routines : List (Word × String) := [
  (kGetCharAddr, kGetCharHex),
  (kPutCharAddr, kPutCharHex),
  (kPrintHexByteAddr, kPrintHexByteHex),
  (kPrintNibbleAddr, kPrintNibbleHex),
  (kPrintStringAddr, kPrintStringHex),
  (kReadLineAddr, kReadLineHex),
  (kParseAddrAddr, kParseAddrHex),
  (kParseByteAddr, kParseByteHex),
  (kHexValAddr, kHexValHex),
  (kDispatchAddr, kDispatchHex),
  (kPeekAddr, kPeekHex),
  (kListAddr, kListHex),
  (kPokeAddr, kPokeHex),
  (kRunAddr, kRunHex),
  (kBannerAddr, kDataHex),
  (kColdStartAddr, kMainHex),
  (kSaveAddr, kSaveHex),
  (kLoadAddr, kLoadHex),
  (kRewindAddr, kRewindHex),
  (0xFFFA#16, "0E CF"),
  (0xFFFC#16, "00 CF"),
  (0xFFFE#16, "0E CF")]

def install (rom : ROM) : Except String ROM :=
  routines.foldlM (fun rom r => loadRoutine r.1 r.2 rom) rom

end monitor

end Sys6
