import Sys6.Library.Word

/-!
# Opcode and vector constants
-/

namespace Sys6

def cResetVector : Word := 0xFFFC#16

def cBRKVector : Word := 0xFFFE#16

def cOpBRK : Byte := 0x00#8
def cOpJSR : Byte := 0x20#8
def cOpRTS : Byte := 0x60#8
def cOpJMPAbsolute : Byte := 0x4C#8
def cOpJMPIndirect : Byte := 0x6C#8
def cOpNOP : Byte := 0xEA#8
def cOpRTI : Byte := 0x40#8
def cOpPHP : Byte := 0x08#8
def cOpPHA : Byte := 0x48#8
def cOpPLP : Byte := 0x28#8
def cOpPLA : Byte := 0x68#8
def cOpADCImmediate : Byte := 0x69#8
def cOpADCAbsolute : Byte := 0x6D#8
def cOpADCZeroPage : Byte := 0x65#8
def cOpADCZeroPageX : Byte := 0x75#8
def cOpADCAbsoluteX : Byte := 0x7D#8
def cOpADCAbsoluteY : Byte := 0x79#8
def cOpADCIndirectX : Byte := 0x61#8
def cOpADCIndirectY : Byte := 0x71#8
def cOpSBCImmediate : Byte := 0xE9#8
def cOpSBCZeroPage : Byte := 0xE5#8
def cOpSBCZeroPageX : Byte := 0xF5#8
def cOpSBCAbsolute : Byte := 0xED#8
def cOpSBCAbsoluteX : Byte := 0xFD#8
def cOpSBCAbsoluteY : Byte := 0xF9#8
def cOpSBCIndirectX : Byte := 0xE1#8
def cOpSBCIndirectY : Byte := 0xF1#8
def cOpANDImmediate : Byte := 0x29#8
def cOpANDZeroPage : Byte := 0x25#8
def cOpANDZeroPageX : Byte := 0x35#8
def cOpANDAbsolute : Byte := 0x2D#8
def cOpANDAbsoluteX : Byte := 0x3D#8
def cOpANDAbsoluteY : Byte := 0x39#8
def cOpANDIndirectX : Byte := 0x21#8
def cOpANDIndirectY : Byte := 0x31#8
def cOpORAImmediate : Byte := 0x09#8
def cOpORAZeroPage : Byte := 0x05#8
def cOpORAZeroPageX : Byte := 0x15#8
def cOpORAAbsolute : Byte := 0x0D#8
def cOpORAAbsoluteX : Byte := 0x1D#8
def cOpORAAbsoluteY : Byte := 0x19#8
def cOpORAIndirectX : Byte := 0x01#8
def cOpORAIndirectY : Byte := 0x11#8
def cOpEORImmediate : Byte := 0x49#8
def cOpEORZeroPage : Byte := 0x45#8
def cOpEORZeroPageX : Byte := 0x55#8
def cOpEORAbsolute : Byte := 0x4D#8
def cOpEORAbsoluteX : Byte := 0x5D#8
def cOpEORAbsoluteY : Byte := 0x59#8
def cOpEORIndirectX : Byte := 0x41#8
def cOpEORIndirectY : Byte := 0x51#8
def cOpCMPImmediate : Byte := 0xC9#8
def cOpCMPZeroPage : Byte := 0xC5#8
def cOpCMPZeroPageX : Byte := 0xD5#8
def cOpCMPAbsolute : Byte := 0xCD#8
def cOpCMPAbsoluteX : Byte := 0xDD#8
def cOpCMPAbsoluteY : Byte := 0xD9#8
def cOpCMPIndirectX : Byte := 0xC1#8
def cOpCMPIndirectY : Byte := 0xD1#8
def cOpCPXImmediate : Byte := 0xE0#8
def cOpCPXZeroPage : Byte := 0xE4#8
def cOpCPXAbsolute : Byte := 0xEC#8
def cOpCPYImmediate : Byte := 0xC0#8
def cOpCPYZeroPage : Byte := 0xC4#8
def cOpCPYAbsolute : Byte := 0xCC#8
def cOpBITZeroPage : Byte := 0x24#8
def cOpBITAbsolute : Byte := 0x2C#8
def cOpASLAccumulator : Byte := 0x0A#8
def cOpASLZeroPage : Byte := 0x06#8
def cOpASLZeroPageX : Byte := 0x16#8
def cOpASLAbsolute : Byte := 0x0E#8
def cOpASLAbsoluteX : Byte := 0x1E#8
def cOpLSRAccumulator : Byte := 0x4A#8
def cOpLSRZeroPage : Byte := 0x46#8
def cOpLSRZeroPageX : Byte := 0x56#8
def cOpLSRAbsolute : Byte := 0x4E#8
def cOpLSRAbsoluteX : Byte := 0x5E#8
def cOpROLAccumulator : Byte := 0x2A#8
def cOpROLZeroPage : Byte := 0x26#8
def cOpROLZeroPageX : Byte := 0x36#8
def cOpROLAbsolute : Byte := 0x2E#8
def cOpROLAbsoluteX : Byte := 0x3E#8
def cOpRORAccumulator : Byte := 0x6A#8
def cOpRORZeroPage : Byte := 0x66#8
def cOpRORZeroPageX : Byte := 0x76#8
def cOpRORAbsolute : Byte := 0x6E#8
def cOpRORAbsoluteX : Byte := 0x7E#8
def cOpINCZeroPage : Byte := 0xE6#8
def cOpINCZeroPageX : Byte := 0xF6#8
def cOpINCAbsolute : Byte := 0xEE#8
def cOpINCAbsoluteX : Byte := 0xFE#8
def cOpDECZeroPage : Byte := 0xC6#8
def cOpDECZeroPageX : Byte := 0xD6#8
def cOpDECAbsolute : Byte := 0xCE#8
def cOpDECAbsoluteX : Byte := 0xDE#8
def cOpINX : Byte := 0xE8#8
def cOpDEX : Byte := 0xCA#8
def cOpINY : Byte := 0xC8#8
def cOpDEY : Byte := 0x88#8
def cOpTAX : Byte := 0xAA#8
def cOpTXA : Byte := 0x8A#8
def cOpTAY : Byte := 0xA8#8
def cOpTYA : Byte := 0x98#8
def cOpTSX : Byte := 0xBA#8
def cOpTXS : Byte := 0x9A#8
def cOpLDAImmediate : Byte := 0xA9#8
def cOpLDAZeroPage : Byte := 0xA5#8
def cOpLDAZeroPageX : Byte := 0xB5#8
def cOpLDAAbsolute : Byte := 0xAD#8
def cOpLDAAbsoluteX : Byte := 0xBD#8
def cOpLDAAbsoluteY : Byte := 0xB9#8
def cOpLDAIndirectX : Byte := 0xA1#8
def cOpLDAIndirectY : Byte := 0xB1#8
def cOpLDXImmediate : Byte := 0xA2#8
def cOpLDXZeroPage : Byte := 0xA6#8
def cOpLDXZeroPageY : Byte := 0xB6#8
def cOpLDXAbsolute : Byte := 0xAE#8
def cOpLDXAbsoluteY : Byte := 0xBE#8
def cOpLDYImmediate : Byte := 0xA0#8
def cOpLDYZeroPage : Byte := 0xA4#8
def cOpLDYZeroPageX : Byte := 0xB4#8
def cOpLDYAbsolute : Byte := 0xAC#8
def cOpLDYAbsoluteX : Byte := 0xBC#8
def cOpSTAZeroPage : Byte := 0x85#8
def cOpSTAZeroPageX : Byte := 0x95#8
def cOpSTAAbsolute : Byte := 0x8D#8
def cOpSTAAbsoluteX : Byte := 0x9D#8
def cOpSTAAbsoluteY : Byte := 0x99#8
def cOpSTAIndirectX : Byte := 0x81#8
def cOpSTAIndirectY : Byte := 0x91#8
def cOpSTXZeroPage : Byte := 0x86#8
def cOpSTXZeroPageY : Byte := 0x96#8
def cOpSTXAbsolute : Byte := 0x8E#8
def cOpSTYZeroPage : Byte := 0x84#8
def cOpSTYZeroPageX : Byte := 0x94#8
def cOpSTYAbsolute : Byte := 0x8C#8
def cOpBPL : Byte := 0x10#8
def cOpBMI : Byte := 0x30#8
def cOpBVC : Byte := 0x50#8
def cOpBVS : Byte := 0x70#8
def cOpBCC : Byte := 0x90#8
def cOpBCS : Byte := 0xB0#8
def cOpBNE : Byte := 0xD0#8
def cOpBEQ : Byte := 0xF0#8
def cOpCLC : Byte := 0x18#8
def cOpSEC : Byte := 0x38#8
def cOpCLI : Byte := 0x58#8
def cOpSEI : Byte := 0x78#8
def cOpCLV : Byte := 0xB8#8
def cOpCLD : Byte := 0xD8#8
def cOpSED : Byte := 0xF8#8

end Sys6
