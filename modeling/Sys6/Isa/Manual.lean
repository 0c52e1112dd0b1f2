import Sys6.Library.Word

/-!
# The opcode table of the manual

The rows of `docs/6502-manual.md`, in its order. An opcode without a row is unlisted.
-/

namespace Sys6.Isa

inductive Mnemonic
  | ADC | SBC | AND | ORA | EOR | CMP | CPX | CPY | ASL | LSR | ROL | ROR | INC | DEC
  | INX | DEX | INY | DEY | TAX | TXA | TAY | TYA | TSX | TXS | LDA | LDX | LDY | STA
  | STX | STY | BIT | BPL | BMI | BVC | BVS | BCC | BCS | BNE | BEQ | CLC | SEC | CLI
  | SEI | CLV | CLD | SED | BRK | JSR | RTS | JMP | PHA | PLA | PHP | PLP | RTI | NOP
deriving DecidableEq, Repr

inductive Mode
  | immediate | zeroPage | zeroPageX | zeroPageY | absolute | absoluteX | absoluteY
  | indirectX | indirectY | accumulator | implied | relative | indirect
deriving DecidableEq, Repr

/-- What the cycle column adds to its base entry. -/
inductive CycleNote
  | none | pageCross | branch
deriving DecidableEq, Repr

structure Row where
  opcode : Byte
  mnemonic : Mnemonic
  mode : Mode
  bytes : Nat
  cycles : Nat
  note : CycleNote
deriving DecidableEq, Repr

def manual : List Row := [
  ⟨0x69#8, .ADC, .immediate, 2, 2, .none⟩,
  ⟨0x65#8, .ADC, .zeroPage, 2, 3, .none⟩,
  ⟨0x75#8, .ADC, .zeroPageX, 2, 4, .none⟩,
  ⟨0x6D#8, .ADC, .absolute, 3, 4, .none⟩,
  ⟨0x7D#8, .ADC, .absoluteX, 3, 4, .pageCross⟩,
  ⟨0x79#8, .ADC, .absoluteY, 3, 4, .pageCross⟩,
  ⟨0x61#8, .ADC, .indirectX, 2, 6, .none⟩,
  ⟨0x71#8, .ADC, .indirectY, 2, 5, .pageCross⟩,
  ⟨0xE9#8, .SBC, .immediate, 2, 2, .none⟩,
  ⟨0xE5#8, .SBC, .zeroPage, 2, 3, .none⟩,
  ⟨0xF5#8, .SBC, .zeroPageX, 2, 4, .none⟩,
  ⟨0xED#8, .SBC, .absolute, 3, 4, .none⟩,
  ⟨0xFD#8, .SBC, .absoluteX, 3, 4, .pageCross⟩,
  ⟨0xF9#8, .SBC, .absoluteY, 3, 4, .pageCross⟩,
  ⟨0xE1#8, .SBC, .indirectX, 2, 6, .none⟩,
  ⟨0xF1#8, .SBC, .indirectY, 2, 5, .pageCross⟩,
  ⟨0x29#8, .AND, .immediate, 2, 2, .none⟩,
  ⟨0x25#8, .AND, .zeroPage, 2, 3, .none⟩,
  ⟨0x35#8, .AND, .zeroPageX, 2, 4, .none⟩,
  ⟨0x2D#8, .AND, .absolute, 3, 4, .none⟩,
  ⟨0x3D#8, .AND, .absoluteX, 3, 4, .pageCross⟩,
  ⟨0x39#8, .AND, .absoluteY, 3, 4, .pageCross⟩,
  ⟨0x21#8, .AND, .indirectX, 2, 6, .none⟩,
  ⟨0x31#8, .AND, .indirectY, 2, 5, .pageCross⟩,
  ⟨0x09#8, .ORA, .immediate, 2, 2, .none⟩,
  ⟨0x05#8, .ORA, .zeroPage, 2, 3, .none⟩,
  ⟨0x15#8, .ORA, .zeroPageX, 2, 4, .none⟩,
  ⟨0x0D#8, .ORA, .absolute, 3, 4, .none⟩,
  ⟨0x1D#8, .ORA, .absoluteX, 3, 4, .pageCross⟩,
  ⟨0x19#8, .ORA, .absoluteY, 3, 4, .pageCross⟩,
  ⟨0x01#8, .ORA, .indirectX, 2, 6, .none⟩,
  ⟨0x11#8, .ORA, .indirectY, 2, 5, .pageCross⟩,
  ⟨0x49#8, .EOR, .immediate, 2, 2, .none⟩,
  ⟨0x45#8, .EOR, .zeroPage, 2, 3, .none⟩,
  ⟨0x55#8, .EOR, .zeroPageX, 2, 4, .none⟩,
  ⟨0x4D#8, .EOR, .absolute, 3, 4, .none⟩,
  ⟨0x5D#8, .EOR, .absoluteX, 3, 4, .pageCross⟩,
  ⟨0x59#8, .EOR, .absoluteY, 3, 4, .pageCross⟩,
  ⟨0x41#8, .EOR, .indirectX, 2, 6, .none⟩,
  ⟨0x51#8, .EOR, .indirectY, 2, 5, .pageCross⟩,
  ⟨0xC9#8, .CMP, .immediate, 2, 2, .none⟩,
  ⟨0xC5#8, .CMP, .zeroPage, 2, 3, .none⟩,
  ⟨0xD5#8, .CMP, .zeroPageX, 2, 4, .none⟩,
  ⟨0xCD#8, .CMP, .absolute, 3, 4, .none⟩,
  ⟨0xDD#8, .CMP, .absoluteX, 3, 4, .pageCross⟩,
  ⟨0xD9#8, .CMP, .absoluteY, 3, 4, .pageCross⟩,
  ⟨0xC1#8, .CMP, .indirectX, 2, 6, .none⟩,
  ⟨0xD1#8, .CMP, .indirectY, 2, 5, .pageCross⟩,
  ⟨0xE0#8, .CPX, .immediate, 2, 2, .none⟩,
  ⟨0xE4#8, .CPX, .zeroPage, 2, 3, .none⟩,
  ⟨0xEC#8, .CPX, .absolute, 3, 4, .none⟩,
  ⟨0xC0#8, .CPY, .immediate, 2, 2, .none⟩,
  ⟨0xC4#8, .CPY, .zeroPage, 2, 3, .none⟩,
  ⟨0xCC#8, .CPY, .absolute, 3, 4, .none⟩,
  ⟨0x0A#8, .ASL, .accumulator, 1, 2, .none⟩,
  ⟨0x06#8, .ASL, .zeroPage, 2, 5, .none⟩,
  ⟨0x16#8, .ASL, .zeroPageX, 2, 6, .none⟩,
  ⟨0x0E#8, .ASL, .absolute, 3, 6, .none⟩,
  ⟨0x1E#8, .ASL, .absoluteX, 3, 7, .none⟩,
  ⟨0x4A#8, .LSR, .accumulator, 1, 2, .none⟩,
  ⟨0x46#8, .LSR, .zeroPage, 2, 5, .none⟩,
  ⟨0x56#8, .LSR, .zeroPageX, 2, 6, .none⟩,
  ⟨0x4E#8, .LSR, .absolute, 3, 6, .none⟩,
  ⟨0x5E#8, .LSR, .absoluteX, 3, 7, .none⟩,
  ⟨0x2A#8, .ROL, .accumulator, 1, 2, .none⟩,
  ⟨0x26#8, .ROL, .zeroPage, 2, 5, .none⟩,
  ⟨0x36#8, .ROL, .zeroPageX, 2, 6, .none⟩,
  ⟨0x2E#8, .ROL, .absolute, 3, 6, .none⟩,
  ⟨0x3E#8, .ROL, .absoluteX, 3, 7, .none⟩,
  ⟨0x6A#8, .ROR, .accumulator, 1, 2, .none⟩,
  ⟨0x66#8, .ROR, .zeroPage, 2, 5, .none⟩,
  ⟨0x76#8, .ROR, .zeroPageX, 2, 6, .none⟩,
  ⟨0x6E#8, .ROR, .absolute, 3, 6, .none⟩,
  ⟨0x7E#8, .ROR, .absoluteX, 3, 7, .none⟩,
  ⟨0xE6#8, .INC, .zeroPage, 2, 5, .none⟩,
  ⟨0xF6#8, .INC, .zeroPageX, 2, 6, .none⟩,
  ⟨0xEE#8, .INC, .absolute, 3, 6, .none⟩,
  ⟨0xFE#8, .INC, .absoluteX, 3, 7, .none⟩,
  ⟨0xC6#8, .DEC, .zeroPage, 2, 5, .none⟩,
  ⟨0xD6#8, .DEC, .zeroPageX, 2, 6, .none⟩,
  ⟨0xCE#8, .DEC, .absolute, 3, 6, .none⟩,
  ⟨0xDE#8, .DEC, .absoluteX, 3, 7, .none⟩,
  ⟨0xE8#8, .INX, .implied, 1, 2, .none⟩,
  ⟨0xCA#8, .DEX, .implied, 1, 2, .none⟩,
  ⟨0xC8#8, .INY, .implied, 1, 2, .none⟩,
  ⟨0x88#8, .DEY, .implied, 1, 2, .none⟩,
  ⟨0xAA#8, .TAX, .implied, 1, 2, .none⟩,
  ⟨0x8A#8, .TXA, .implied, 1, 2, .none⟩,
  ⟨0xA8#8, .TAY, .implied, 1, 2, .none⟩,
  ⟨0x98#8, .TYA, .implied, 1, 2, .none⟩,
  ⟨0xBA#8, .TSX, .implied, 1, 2, .none⟩,
  ⟨0x9A#8, .TXS, .implied, 1, 2, .none⟩,
  ⟨0xA9#8, .LDA, .immediate, 2, 2, .none⟩,
  ⟨0xA5#8, .LDA, .zeroPage, 2, 3, .none⟩,
  ⟨0xB5#8, .LDA, .zeroPageX, 2, 4, .none⟩,
  ⟨0xAD#8, .LDA, .absolute, 3, 4, .none⟩,
  ⟨0xBD#8, .LDA, .absoluteX, 3, 4, .pageCross⟩,
  ⟨0xB9#8, .LDA, .absoluteY, 3, 4, .pageCross⟩,
  ⟨0xA1#8, .LDA, .indirectX, 2, 6, .none⟩,
  ⟨0xB1#8, .LDA, .indirectY, 2, 5, .pageCross⟩,
  ⟨0xA2#8, .LDX, .immediate, 2, 2, .none⟩,
  ⟨0xA6#8, .LDX, .zeroPage, 2, 3, .none⟩,
  ⟨0xB6#8, .LDX, .zeroPageY, 2, 4, .none⟩,
  ⟨0xAE#8, .LDX, .absolute, 3, 4, .none⟩,
  ⟨0xBE#8, .LDX, .absoluteY, 3, 4, .pageCross⟩,
  ⟨0xA0#8, .LDY, .immediate, 2, 2, .none⟩,
  ⟨0xA4#8, .LDY, .zeroPage, 2, 3, .none⟩,
  ⟨0xB4#8, .LDY, .zeroPageX, 2, 4, .none⟩,
  ⟨0xAC#8, .LDY, .absolute, 3, 4, .none⟩,
  ⟨0xBC#8, .LDY, .absoluteX, 3, 4, .pageCross⟩,
  ⟨0x85#8, .STA, .zeroPage, 2, 3, .none⟩,
  ⟨0x95#8, .STA, .zeroPageX, 2, 4, .none⟩,
  ⟨0x8D#8, .STA, .absolute, 3, 4, .none⟩,
  ⟨0x9D#8, .STA, .absoluteX, 3, 5, .none⟩,
  ⟨0x99#8, .STA, .absoluteY, 3, 5, .none⟩,
  ⟨0x81#8, .STA, .indirectX, 2, 6, .none⟩,
  ⟨0x91#8, .STA, .indirectY, 2, 6, .none⟩,
  ⟨0x86#8, .STX, .zeroPage, 2, 3, .none⟩,
  ⟨0x96#8, .STX, .zeroPageY, 2, 4, .none⟩,
  ⟨0x8E#8, .STX, .absolute, 3, 4, .none⟩,
  ⟨0x84#8, .STY, .zeroPage, 2, 3, .none⟩,
  ⟨0x94#8, .STY, .zeroPageX, 2, 4, .none⟩,
  ⟨0x8C#8, .STY, .absolute, 3, 4, .none⟩,
  ⟨0x24#8, .BIT, .zeroPage, 2, 3, .none⟩,
  ⟨0x2C#8, .BIT, .absolute, 3, 4, .none⟩,
  ⟨0x10#8, .BPL, .relative, 2, 2, .branch⟩,
  ⟨0x30#8, .BMI, .relative, 2, 2, .branch⟩,
  ⟨0x50#8, .BVC, .relative, 2, 2, .branch⟩,
  ⟨0x70#8, .BVS, .relative, 2, 2, .branch⟩,
  ⟨0x90#8, .BCC, .relative, 2, 2, .branch⟩,
  ⟨0xB0#8, .BCS, .relative, 2, 2, .branch⟩,
  ⟨0xD0#8, .BNE, .relative, 2, 2, .branch⟩,
  ⟨0xF0#8, .BEQ, .relative, 2, 2, .branch⟩,
  ⟨0x18#8, .CLC, .implied, 1, 2, .none⟩,
  ⟨0x38#8, .SEC, .implied, 1, 2, .none⟩,
  ⟨0x58#8, .CLI, .implied, 1, 2, .none⟩,
  ⟨0x78#8, .SEI, .implied, 1, 2, .none⟩,
  ⟨0xB8#8, .CLV, .implied, 1, 2, .none⟩,
  ⟨0xD8#8, .CLD, .implied, 1, 2, .none⟩,
  ⟨0xF8#8, .SED, .implied, 1, 2, .none⟩,
  ⟨0x00#8, .BRK, .implied, 2, 7, .none⟩,
  ⟨0x20#8, .JSR, .absolute, 3, 6, .none⟩,
  ⟨0x60#8, .RTS, .implied, 1, 6, .none⟩,
  ⟨0x4C#8, .JMP, .absolute, 3, 3, .none⟩,
  ⟨0x6C#8, .JMP, .indirect, 3, 5, .none⟩,
  ⟨0x48#8, .PHA, .implied, 1, 3, .none⟩,
  ⟨0x68#8, .PLA, .implied, 1, 4, .none⟩,
  ⟨0x08#8, .PHP, .implied, 1, 3, .none⟩,
  ⟨0x28#8, .PLP, .implied, 1, 4, .none⟩,
  ⟨0x40#8, .RTI, .implied, 1, 6, .none⟩,
  ⟨0xEA#8, .NOP, .implied, 1, 2, .none⟩]

def decode (opcode : Byte) : Option (Mnemonic × Mode) :=
  (manual.find? fun row => row.opcode = opcode).map fun row => (row.mnemonic, row.mode)

end Sys6.Isa
