import Sys6.Library.Word

/-!
# The ALU

A combinational unit: operands, function select and carry in determine the output.
-/

namespace Sys6

structure AluResult where
  value : Byte
  carry : Bool
deriving DecidableEq, Repr

inductive AluFunction
  | ADD | AND | OR | XOR | SHL | SHR | ROL | ROR
deriving DecidableEq, Repr

def ALU.execute (a b : Byte) (function : AluFunction) (carryIn : Bool) : AluResult :=
  match function with
  | .ADD =>
    let sum := a.toNat + b.toNat + (if carryIn then 1 else 0)
    ⟨BitVec.ofNat 8 (sum &&& 0xFF), decide (sum > 0xFF)⟩
  | .AND => ⟨a &&& b, false⟩
  | .OR => ⟨a ||| b, false⟩
  | .XOR => ⟨a ^^^ b, false⟩
  | .SHL => ⟨b <<< 1, b &&& 0x80#8 != 0#8⟩
  | .SHR => ⟨b >>> 1, b &&& 0x01#8 != 0#8⟩
  | .ROL => ⟨(b <<< 1) ||| (if carryIn then 0x01#8 else 0x00#8), b &&& 0x80#8 != 0#8⟩
  | .ROR => ⟨(b >>> 1) ||| (if carryIn then 0x80#8 else 0x00#8), b &&& 0x01#8 != 0#8⟩

def aluZero (d : Byte) : Bool := d == 0#8

def aluNegative (d : Byte) : Bool := d &&& 0x80#8 != 0#8

def aluOverflow (a b d : Byte) : Bool := (~~~(a ^^^ b)) &&& (a ^^^ d) &&& 0x80#8 != 0#8

end Sys6
