import Sys6.System.MonitorFirmware

/-!
# The ROM image

`install` parses hex text. Its result is given here as a list of byte segments, which can
be looked up without parsing again.
-/

namespace Sys6

/-- `load` at consecutive offsets. -/
def ROM.loadBytes (rom : ROM) (offset : Word) : List Byte → ROM
  | [] => rom
  | b :: bs => (rom.load offset b).loadBytes (offset + 1#16) bs

namespace monitor

def hexBytes : List Char → Except String (List Byte)
  | d :: d' :: digits => do
    let high ← hexDigitValue d
    let low ← hexDigitValue d'
    let bytes ← hexBytes digits
    return BitVec.ofNat 8 (high <<< 4 ||| low) :: bytes
  | _ => .ok []

def parse (hex : String) : Except String (List Byte) :=
  let digits := hex.toList.filter fun c => !isspace c
  if digits.length % 2 ≠ 0 then .error "loadRoutine: hex string has odd digit count"
  else hexBytes digits

def getCharBytes : List Byte := [
  0xAD, 0x00, 0x80, 0x29, 0x01, 0xF0, 0xF9, 0xAD, 0x01, 0x80, 0x60]

def putCharBytes : List Byte := [
  0x8D, 0x01, 0x80, 0x60]

def printHexByteBytes : List Byte := [
  0x48, 0x4A, 0x4A, 0x4A, 0x4A, 0x20, 0x20, 0xC2, 0x68, 0x29, 0x0F, 0x20, 0x20, 0xC2, 0x60]

def printNibbleBytes : List Byte := [
  0xC9, 0x0A, 0x90, 0x05, 0x69, 0x36, 0x4C, 0x00, 0xC1, 0x69, 0x30, 0x4C, 0x00, 0xC1]

def printStringBytes : List Byte := [
  0xA0, 0x00, 0xB1, 0xFC, 0xF0, 0x07, 0x20, 0x00, 0xC1, 0xC8, 0x4C, 0x02, 0xC3, 0x60]

def readLineBytes : List Byte := [
  0xA2, 0x00, 0x20, 0x00, 0xC0, 0xC9, 0x0D, 0xF0, 0x2C, 0xC9, 0x7F, 0xF0, 0x11, 0xC9, 0x08, 0xF0,
  0x0D, 0xE0, 0x40, 0xB0, 0xED, 0x95, 0x00, 0x20, 0x00, 0xC1, 0xE8, 0x4C, 0x02, 0xC4, 0xE0, 0x00,
  0xF0, 0xE0, 0xCA, 0xA9, 0x08, 0x20, 0x00, 0xC1, 0xA9, 0x20, 0x20, 0x00, 0xC1, 0xA9, 0x08, 0x20,
  0x00, 0xC1, 0x4C, 0x02, 0xC4, 0xA9, 0x0D, 0x20, 0x00, 0xC1, 0xA9, 0x0A, 0x20, 0x00, 0xC1, 0x86,
  0x40, 0x60]

def parseAddrBytes : List Byte := [
  0xA9, 0x00, 0x85, 0xF0, 0x85, 0xF1, 0x85, 0xF5, 0xA6, 0x41, 0xE4, 0x40, 0xB0, 0x24, 0xB5, 0x00,
  0x20, 0x00, 0xC7, 0xB0, 0x1D, 0x48, 0x06, 0xF0, 0x26, 0xF1, 0x06, 0xF0, 0x26, 0xF1, 0x06, 0xF0,
  0x26, 0xF1, 0x06, 0xF0, 0x26, 0xF1, 0x68, 0x05, 0xF0, 0x85, 0xF0, 0xE6, 0x41, 0xE6, 0xF5, 0x4C,
  0x08, 0xC5, 0xA5, 0xF5, 0xF0, 0x02, 0x18, 0x60, 0x38, 0x60]

def parseByteBytes : List Byte := [
  0xA9, 0x00, 0x85, 0xF4, 0x85, 0xF5, 0xA5, 0xF5, 0xC9, 0x02, 0xB0, 0x22, 0xA6, 0x41, 0xE4, 0x40,
  0xB0, 0x1C, 0xB5, 0x00, 0x20, 0x00, 0xC7, 0xB0, 0x15, 0x48, 0x06, 0xF4, 0x06, 0xF4, 0x06, 0xF4,
  0x06, 0xF4, 0x68, 0x05, 0xF4, 0x85, 0xF4, 0xE6, 0x41, 0xE6, 0xF5, 0x4C, 0x06, 0xC6, 0xA5, 0xF5,
  0xF0, 0x02, 0x18, 0x60, 0x38, 0x60]

def hexValBytes : List Byte := [
  0xC9, 0x30, 0x90, 0x23, 0xC9, 0x3A, 0xB0, 0x05, 0x38, 0xE9, 0x30, 0x18, 0x60, 0xC9, 0x41, 0x90,
  0x16, 0xC9, 0x47, 0xB0, 0x05, 0x38, 0xE9, 0x37, 0x18, 0x60, 0xC9, 0x61, 0x90, 0x09, 0xC9, 0x67,
  0xB0, 0x05, 0x38, 0xE9, 0x57, 0x18, 0x60, 0x38, 0x60]

def dispatchBytes : List Byte := [
  0xA5, 0x41, 0xC5, 0x40, 0x90, 0x03, 0x4C, 0x00, 0xCA, 0xA6, 0x41, 0xB5, 0x00, 0xC9, 0x2E, 0xF0,
  0x0B, 0xC9, 0x3A, 0xF0, 0x4D, 0xC9, 0x20, 0xF0, 0x4E, 0x4C, 0x88, 0xC8, 0xE6, 0x41, 0xA5, 0xF0,
  0x85, 0xF2, 0xA5, 0xF1, 0x85, 0xF3, 0x20, 0x00, 0xC5, 0xB0, 0x5D, 0xA5, 0xF0, 0x85, 0xF5, 0xA5,
  0xF1, 0x85, 0xF6, 0xA5, 0xF2, 0x85, 0xF0, 0xA5, 0xF3, 0x85, 0xF1, 0xA5, 0xF5, 0x85, 0xF2, 0xA5,
  0xF6, 0x85, 0xF3, 0xA5, 0x41, 0xC5, 0x40, 0x90, 0x03, 0x4C, 0x00, 0xCB, 0xA6, 0x41, 0xB5, 0x00,
  0xC9, 0x20, 0xD0, 0x34, 0xE8, 0xE4, 0x40, 0xB0, 0x2F, 0xB5, 0x00, 0xC9, 0x53, 0xD0, 0x29, 0x4C,
  0x00, 0xD0, 0xE6, 0x41, 0x4C, 0x00, 0xCC, 0xA6, 0x41, 0xE8, 0xE4, 0x40, 0xB0, 0x1A, 0xB5, 0x00,
  0xC9, 0x52, 0xF0, 0x0B, 0xC9, 0x4C, 0xF0, 0x0A, 0xC9, 0x57, 0xF0, 0x09, 0x4C, 0x88, 0xC8, 0x4C,
  0x00, 0xCD, 0x4C, 0x00, 0xD1, 0x4C, 0x00, 0xD2, 0xA9, 0x3F, 0x20, 0x00, 0xC1, 0xA9, 0x0D, 0x20,
  0x00, 0xC1, 0xA9, 0x0A, 0x20, 0x00, 0xC1, 0x60]

def peekBytes : List Byte := [
  0xA5, 0xF1, 0x20, 0x00, 0xC2, 0xA5, 0xF0, 0x20, 0x00, 0xC2, 0xA9, 0x3A, 0x20, 0x00, 0xC1, 0xA9,
  0x20, 0x20, 0x00, 0xC1, 0xA0, 0x00, 0xB1, 0xF0, 0x20, 0x00, 0xC2, 0xA9, 0x0D, 0x20, 0x00, 0xC1,
  0xA9, 0x0A, 0x20, 0x00, 0xC1, 0x60]

def listBytes : List Byte := [
  0xA9, 0x00, 0x85, 0xF7, 0xA5, 0xF1, 0xC5, 0xF3, 0x90, 0x0A, 0xD0, 0x4B, 0xA5, 0xF0, 0xC5, 0xF2,
  0xF0, 0x02, 0xB0, 0x43, 0xA5, 0xF7, 0xD0, 0x14, 0xA5, 0xF1, 0x20, 0x00, 0xC2, 0xA5, 0xF0, 0x20,
  0x00, 0xC2, 0xA9, 0x3A, 0x20, 0x00, 0xC1, 0xA9, 0x20, 0x20, 0x00, 0xC1, 0xA0, 0x00, 0xB1, 0xF0,
  0x20, 0x00, 0xC2, 0xA9, 0x20, 0x20, 0x00, 0xC1, 0xE6, 0xF0, 0xD0, 0x02, 0xE6, 0xF1, 0xE6, 0xF7,
  0xA5, 0xF7, 0xC9, 0x10, 0x90, 0xBE, 0xA9, 0x0D, 0x20, 0x00, 0xC1, 0xA9, 0x0A, 0x20, 0x00, 0xC1,
  0xA9, 0x00, 0x85, 0xF7, 0x4C, 0x04, 0xCB, 0xA5, 0xF7, 0xF0, 0x0A, 0xA9, 0x0D, 0x20, 0x00, 0xC1,
  0xA9, 0x0A, 0x20, 0x00, 0xC1, 0x60]

def pokeBytes : List Byte := [
  0xA5, 0x41, 0xC5, 0x40, 0xB0, 0x21, 0xA6, 0x41, 0xB5, 0x00, 0xC9, 0x20, 0xD0, 0x05, 0xE6, 0x41,
  0x4C, 0x00, 0xCC, 0x20, 0x00, 0xC6, 0xB0, 0x0F, 0xA0, 0x00, 0xA5, 0xF4, 0x91, 0xF0, 0xE6, 0xF0,
  0xD0, 0x02, 0xE6, 0xF1, 0x4C, 0x00, 0xCC, 0x60]

def runBytes : List Byte := [
  0xA9, 0x20, 0x85, 0xF8, 0xA5, 0xF0, 0x85, 0xF9, 0xA5, 0xF1, 0x85, 0xFA, 0xA9, 0x60, 0x85, 0xFB,
  0x20, 0xF8, 0x00, 0x60]

def dataBytes : List Byte := [
  0x73, 0x79, 0x73, 0x36, 0x20, 0x6D, 0x6F, 0x6E, 0x69, 0x74, 0x6F, 0x72, 0x0D, 0x0A, 0x00, 0x3E,
  0x20, 0x00]

def mainBytes : List Byte := [
  0xA9, 0x00, 0x85, 0xFC, 0xA9, 0xCE, 0x85, 0xFD, 0x20, 0x00, 0xC3, 0x4C, 0x11, 0xCF, 0xA2, 0xFF,
  0x9A, 0xA9, 0x0F, 0x85, 0xFC, 0xA9, 0xCE, 0x85, 0xFD, 0x20, 0x00, 0xC3, 0x20, 0x00, 0xC4, 0xA9,
  0x00, 0x85, 0x41, 0x20, 0x00, 0xC5, 0xB0, 0x06, 0x20, 0x00, 0xC8, 0x4C, 0x11, 0xCF, 0xA9, 0x3F,
  0x20, 0x00, 0xC1, 0xA9, 0x0D, 0x20, 0x00, 0xC1, 0xA9, 0x0A, 0x20, 0x00, 0xC1, 0x4C, 0x11, 0xCF]

def saveBytes : List Byte := [
  0xAD, 0x02, 0x80, 0x29, 0x01, 0xD0, 0x03, 0x4C, 0x70, 0xD0, 0xA5, 0xF3, 0xC5, 0xF1, 0x90, 0x08,
  0xD0, 0x09, 0xA5, 0xF2, 0xC5, 0xF0, 0xB0, 0x03, 0x4C, 0x70, 0xD0, 0xA9, 0x01, 0x8D, 0x03, 0x80,
  0x38, 0xA5, 0xF2, 0xE5, 0xF0, 0x85, 0x42, 0xA5, 0xF3, 0xE5, 0xF1, 0x85, 0x43, 0xE6, 0x42, 0xD0,
  0x02, 0xE6, 0x43, 0xA9, 0x00, 0x85, 0x44, 0xA5, 0x42, 0x8D, 0x04, 0x80, 0xA5, 0x43, 0x8D, 0x04,
  0x80, 0xA5, 0xF1, 0xC5, 0xF3, 0x90, 0x0A, 0xD0, 0x1C, 0xA5, 0xF0, 0xC5, 0xF2, 0xF0, 0x02, 0xB0,
  0x14, 0xA0, 0x00, 0xB1, 0xF0, 0x8D, 0x04, 0x80, 0x45, 0x44, 0x85, 0x44, 0xE6, 0xF0, 0xD0, 0x02,
  0xE6, 0xF1, 0x4C, 0x41, 0xD0, 0xA5, 0x44, 0x8D, 0x04, 0x80, 0xA9, 0x00, 0x8D, 0x03, 0x80, 0x60,
  0xA9, 0x3F, 0x20, 0x00, 0xC1, 0xA9, 0x0D, 0x20, 0x00, 0xC1, 0xA9, 0x0A, 0x20, 0x00, 0xC1, 0x60]

def loadBytes : List Byte := [
  0xAD, 0x02, 0x80, 0x29, 0x01, 0xD0, 0x03, 0x4C, 0x5E, 0xD1, 0xA9, 0x01, 0x8D, 0x03, 0x80, 0x20,
  0x6E, 0xD1, 0xB0, 0x3C, 0x85, 0x42, 0x20, 0x6E, 0xD1, 0xB0, 0x35, 0x85, 0x43, 0xA9, 0x00, 0x85,
  0x44, 0xA5, 0x42, 0x05, 0x43, 0xF0, 0x20, 0x20, 0x6E, 0xD1, 0xB0, 0x24, 0x48, 0x45, 0x44, 0x85,
  0x44, 0x68, 0xA0, 0x00, 0x91, 0xF0, 0xE6, 0xF0, 0xD0, 0x02, 0xE6, 0xF1, 0xA5, 0x42, 0xD0, 0x02,
  0xC6, 0x43, 0xC6, 0x42, 0x4C, 0x21, 0xD1, 0x20, 0x6E, 0xD1, 0xB0, 0x04, 0xC5, 0x44, 0xF0, 0x08,
  0xA9, 0x00, 0x8D, 0x03, 0x80, 0x4C, 0x5E, 0xD1, 0xA9, 0x00, 0x8D, 0x03, 0x80, 0x60, 0xA9, 0x3F,
  0x20, 0x00, 0xC1, 0xA9, 0x0D, 0x20, 0x00, 0xC1, 0xA9, 0x0A, 0x20, 0x00, 0xC1, 0x60, 0xAD, 0x04,
  0x80, 0x48, 0xAD, 0x02, 0x80, 0x29, 0x08, 0xF0, 0x03, 0x68, 0x38, 0x60, 0x68, 0x18, 0x60]

def rewindBytes : List Byte := [
  0xAD, 0x02, 0x80, 0x29, 0x01, 0xD0, 0x03, 0x4C, 0x10, 0xD2, 0xA9, 0x02, 0x8D, 0x03, 0x80, 0x60,
  0xA9, 0x3F, 0x20, 0x00, 0xC1, 0xA9, 0x0D, 0x20, 0x00, 0xC1, 0xA9, 0x0A, 0x20, 0x00, 0xC1, 0x60]

/-- A stretch of ROM: `size` bytes from the offset `start` on. -/
structure Segment where
  start : Nat
  size : Nat
  bytes : List Byte

/-- What `routines` loads, in its order. -/
def segments : List Segment := [
  ⟨0x0000, 11, getCharBytes⟩,
  ⟨0x0100, 4, putCharBytes⟩,
  ⟨0x0200, 15, printHexByteBytes⟩,
  ⟨0x0220, 14, printNibbleBytes⟩,
  ⟨0x0300, 14, printStringBytes⟩,
  ⟨0x0400, 66, readLineBytes⟩,
  ⟨0x0500, 58, parseAddrBytes⟩,
  ⟨0x0600, 54, parseByteBytes⟩,
  ⟨0x0700, 41, hexValBytes⟩,
  ⟨0x0800, 152, dispatchBytes⟩,
  ⟨0x0A00, 38, peekBytes⟩,
  ⟨0x0B00, 102, listBytes⟩,
  ⟨0x0C00, 40, pokeBytes⟩,
  ⟨0x0D00, 20, runBytes⟩,
  ⟨0x0E00, 18, dataBytes⟩,
  ⟨0x0F00, 64, mainBytes⟩,
  ⟨0x1000, 128, saveBytes⟩,
  ⟨0x1100, 127, loadBytes⟩,
  ⟨0x1200, 32, rewindBytes⟩,
  ⟨0x3FFA, 2, [0x0E, 0xCF]⟩,
  ⟨0x3FFC, 2, [0x00, 0xCF]⟩,
  ⟨0x3FFE, 2, [0x0E, 0xCF]⟩]

lemma loadDigits_eq (digits : List Char) (rom : ROM) (offset : Word) :
    loadDigits rom offset digits = (hexBytes digits).map (rom.loadBytes offset) := by
  fun_induction loadDigits rom offset digits with
  | case1 rom offset d d' digits ih =>
    unfold hexBytes
    cases hexDigitValue d with
    | error e => rfl
    | ok high =>
      cases hexDigitValue d' with
      | error e => rfl
      | ok low =>
        simp only [bind, Except.bind, ih]
        cases hexBytes digits <;> rfl
  | case2 l rom offset h =>
    match l with
    | [] => rfl
    | [_] => rfl
    | d :: d' :: digits => exact absurd rfl (h d d' digits)

lemma loadRoutine_eq (busAddr : Word) (hex : String) (rom : ROM) :
    loadRoutine busAddr hex rom = (parse hex).map (rom.loadBytes (busAddr - kRomBase)) := by
  unfold loadRoutine parse
  simp only
  split_ifs
  · rfl
  · exact loadDigits_eq _ rom _

lemma install_eq (rom : ROM) {rs : List (Word × String)} {segs : List Segment}
    (h : List.Forall₂ (fun r seg => r.1 - kRomBase = BitVec.ofNat 16 seg.start ∧ parse r.2 = .ok seg.bytes) rs segs) :
    rs.foldlM (fun rom r => loadRoutine r.1 r.2 rom) rom =
      .ok (segs.foldl (fun rom seg => rom.loadBytes (BitVec.ofNat 16 seg.start) seg.bytes) rom) := by
  induction h generalizing rom with
  | nil => rfl
  | cons hd _ ih =>
    rw [List.foldlM_cons, loadRoutine_eq, hd.1, hd.2]
    exact ih _

lemma parse_join (lines : List String) :
    parse (String.join lines) =
      let digits := (lines.flatMap String.toList).filter fun c => !isspace c
      if digits.length % 2 ≠ 0 then .error "loadRoutine: hex string has odd digit count"
      else hexBytes digits := by
  rw [parse, String.toList_join]

theorem parse_routines :
    List.Forall₂ (fun r seg => r.1 - kRomBase = BitVec.ofNat 16 seg.start ∧ parse r.2 = .ok seg.bytes)
      routines segments := by
  iterate 19 refine .cons ⟨by decide, (parse_join _).trans (by decide +kernel)⟩ ?_
  exact .cons ⟨by decide, by decide +kernel⟩ (.cons ⟨by decide, by decide +kernel⟩
    (.cons ⟨by decide, by decide +kernel⟩ .nil))

lemma data_loadBytes (bytes : List Byte) (rom : ROM) (start : Nat) (w : Word)
    (h : start + bytes.length ≤ 65536) :
    (rom.loadBytes (BitVec.ofNat 16 start) bytes).data w =
      if start ≤ w.toNat then (bytes[w.toNat - start]?).getD (rom.data w) else rom.data w := by
  induction bytes generalizing rom start with
  | nil => simp [ROM.loadBytes]
  | cons b bs ih =>
    simp only [List.length_cons] at h
    have hs : BitVec.ofNat 16 start + 1#16 = BitVec.ofNat 16 (start + 1) := by bv_omega
    rw [ROM.loadBytes, hs, ih _ _ (by omega)]
    by_cases hw : w.toNat = start
    · have hw' : w = BitVec.ofNat 16 start := by rw [← hw, BitVec.ofNat_toNat, BitVec.setWidth_eq]
      rw [if_neg (by omega), if_pos (by omega), hw, Nat.sub_self]
      simp [ROM.load, hw']
    · have hw' : w ≠ BitVec.ofNat 16 start := by
        rintro rfl
        exact hw (by rw [BitVec.toNat_ofNat, Nat.mod_eq_of_lt (by omega)])
      have hload : (rom.load (BitVec.ofNat 16 start) b).data w = rom.data w :=
        Function.update_of_ne hw' _ _
      rw [hload]
      by_cases hlt : start < w.toNat
      · rw [if_pos (by omega), if_pos (by omega),
          show w.toNat - start = (w.toNat - (start + 1)) + 1 by omega, List.getElem?_cons_succ]
      · rw [if_neg (by omega), if_neg (by omega)]

/-- The byte a segment has at an offset. -/
def Segment.at (offset : Nat) (seg : Segment) : Option Byte :=
  if seg.start ≤ offset ∧ offset < seg.start + seg.size then seg.bytes[offset - seg.start]? else none

/-- The byte that `install` puts at a ROM offset; later routines win. -/
def image (offset : Word) : Byte :=
  (segments.reverse.findSome? (Segment.at offset.toNat)).getD 0#8

lemma data_segment (seg : Segment) (rom : ROM) (w : Word) (hs : seg.bytes.length = seg.size)
    (h : seg.start + seg.size ≤ 65536) :
    (rom.loadBytes (BitVec.ofNat 16 seg.start) seg.bytes).data w =
      (seg.at w.toNat).getD (rom.data w) := by
  rw [data_loadBytes _ _ _ _ (by omega)]
  unfold Segment.at
  by_cases h1 : seg.start ≤ w.toNat
  · by_cases h2 : w.toNat < seg.start + seg.size
    · rw [if_pos h1, if_pos ⟨h1, h2⟩]
    · rw [if_pos h1, if_neg (by omega), List.getElem?_eq_none (by omega)]
  · rw [if_neg h1, if_neg (by omega)]
    rfl

lemma data_foldl_segments (segs : List Segment) (rom : ROM) (w : Word)
    (h : ∀ seg ∈ segs, seg.bytes.length = seg.size ∧ seg.start + seg.size ≤ 65536) :
    (segs.foldl (fun rom seg => rom.loadBytes (BitVec.ofNat 16 seg.start) seg.bytes) rom).data w =
      (segs.reverse.findSome? (Segment.at w.toNat)).getD (rom.data w) := by
  induction segs generalizing rom with
  | nil => rfl
  | cons seg segs ih =>
    obtain ⟨hs, hfit⟩ := h seg List.mem_cons_self
    rw [List.foldl_cons, ih _ fun s hs => h s (List.mem_cons_of_mem _ hs),
      data_segment seg rom w hs hfit, List.reverse_cons, List.findSome?_append]
    cases segs.reverse.findSome? (Segment.at w.toNat) with
    | none => simp [List.findSome?_singleton]
    | some b => rfl

lemma size_loadBytes (bytes : List Byte) (rom : ROM) (offset : Word) :
    (rom.loadBytes offset bytes).size = rom.size := by
  induction bytes generalizing rom offset with
  | nil => rfl
  | cons b bs ih => exact ih _ _

lemma size_foldl_segments (segs : List Segment) (rom : ROM) :
    (segs.foldl (fun rom seg => rom.loadBytes (BitVec.ofNat 16 seg.start) seg.bytes) rom).size =
      rom.size := by
  induction segs generalizing rom with
  | nil => rfl
  | cons seg segs ih => exact (ih _).trans (size_loadBytes _ _ _)

lemma eq_rom {rom : ROM} {size : Nat} {data : Word → Byte} (hs : rom.size = size)
    (hd : ∀ w, rom.data w = data w) : rom = ⟨size, data⟩ := by
  cases rom
  obtain rfl : _ = size := hs
  congr 1
  funext w
  exact hd w

/-- The firmware parses, and the ROM then holds the image. -/
theorem install_blank :
    install ⟨kRomSize, fun _ => 0#8⟩ = .ok ⟨kRomSize, image⟩ := by
  have hrom := eq_rom (size_foldl_segments segments ⟨kRomSize, fun _ => 0#8⟩) fun w =>
    data_foldl_segments segments ⟨kRomSize, fun _ => 0#8⟩ w (by decide +kernel)
  rw [install, install_eq _ parse_routines, hrom]
  rfl

end monitor

end Sys6
