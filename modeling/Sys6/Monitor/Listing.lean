import Sys6.Monitor.Exec

/-!
# The listing

The firmware line by line, under the labels of the source, and where its branches go.
`COLD_START` has its lines beside its proof.
-/

namespace Sys6

-- GETCHAR
@[simp] lemma line_C000 : line 0xC000#16 = some ⟨.LDA, .absolute 0x8000#16, .plain⟩ := by decide
@[simp] lemma line_C003 : line 0xC003#16 = some ⟨.AND, .immediate 0x01#8, .plain⟩ := by decide
@[simp] lemma line_C005 : line 0xC005#16 = some ⟨.BEQ, .relative 0xF9#8, .plain⟩ := by decide
@[simp] lemma line_C007 : line 0xC007#16 = some ⟨.LDA, .absolute 0x8001#16, .plain⟩ := by decide
@[simp] lemma line_C00A : line 0xC00A#16 = some ⟨.RTS, .implied, .stack⟩ := by decide

-- PUTCHAR
@[simp] lemma line_C100 : line 0xC100#16 = some ⟨.STA, .absolute 0x8001#16, .plain⟩ := by decide
@[simp] lemma line_C103 : line 0xC103#16 = some ⟨.RTS, .implied, .stack⟩ := by decide

-- PRINT_HEX_BYTE
@[simp] lemma line_C200 : line 0xC200#16 = some ⟨.PHA, .implied, .stack⟩ := by decide
@[simp] lemma line_C201 : line 0xC201#16 = some ⟨.LSR, .accumulator, .plain⟩ := by decide
@[simp] lemma line_C202 : line 0xC202#16 = some ⟨.LSR, .accumulator, .plain⟩ := by decide
@[simp] lemma line_C203 : line 0xC203#16 = some ⟨.LSR, .accumulator, .plain⟩ := by decide
@[simp] lemma line_C204 : line 0xC204#16 = some ⟨.LSR, .accumulator, .plain⟩ := by decide
@[simp] lemma line_C205 : line 0xC205#16 = some ⟨.JSR, .absolute 0xC220#16, .stack⟩ := by decide
@[simp] lemma line_C208 : line 0xC208#16 = some ⟨.PLA, .implied, .stack⟩ := by decide
@[simp] lemma line_C209 : line 0xC209#16 = some ⟨.AND, .immediate 0x0F#8, .plain⟩ := by decide
@[simp] lemma line_C20B : line 0xC20B#16 = some ⟨.JSR, .absolute 0xC220#16, .stack⟩ := by decide
@[simp] lemma line_C20E : line 0xC20E#16 = some ⟨.RTS, .implied, .stack⟩ := by decide

-- PRINT_NIBBLE
@[simp] lemma line_C220 : line 0xC220#16 = some ⟨.CMP, .immediate 0x0A#8, .plain⟩ := by decide
@[simp] lemma line_C222 : line 0xC222#16 = some ⟨.BCC, .relative 0x05#8, .plain⟩ := by decide
@[simp] lemma line_C224 : line 0xC224#16 = some ⟨.ADC, .immediate 0x36#8, .plain⟩ := by decide
@[simp] lemma line_C226 : line 0xC226#16 = some ⟨.JMP, .absolute 0xC100#16, .plain⟩ := by decide
@[simp] lemma line_C229 : line 0xC229#16 = some ⟨.ADC, .immediate 0x30#8, .plain⟩ := by decide
@[simp] lemma line_C22B : line 0xC22B#16 = some ⟨.JMP, .absolute 0xC100#16, .plain⟩ := by decide

-- PRINT_STRING
@[simp] lemma line_C300 : line 0xC300#16 = some ⟨.LDY, .immediate 0x00#8, .plain⟩ := by decide
@[simp] lemma line_C302 : line 0xC302#16 = some ⟨.LDA, .indirectY 0xFC#8, .plain⟩ := by decide
@[simp] lemma line_C304 : line 0xC304#16 = some ⟨.BEQ, .relative 0x07#8, .plain⟩ := by decide
@[simp] lemma line_C306 : line 0xC306#16 = some ⟨.JSR, .absolute 0xC100#16, .stack⟩ := by decide
@[simp] lemma line_C309 : line 0xC309#16 = some ⟨.INY, .implied, .plain⟩ := by decide
@[simp] lemma line_C30A : line 0xC30A#16 = some ⟨.JMP, .absolute 0xC302#16, .plain⟩ := by decide
@[simp] lemma line_C30D : line 0xC30D#16 = some ⟨.RTS, .implied, .stack⟩ := by decide

-- READ_LINE
@[simp] lemma line_C400 : line 0xC400#16 = some ⟨.LDX, .immediate 0x00#8, .plain⟩ := by decide
@[simp] lemma line_C402 : line 0xC402#16 = some ⟨.JSR, .absolute 0xC000#16, .stack⟩ := by decide
@[simp] lemma line_C405 : line 0xC405#16 = some ⟨.CMP, .immediate 0x0D#8, .plain⟩ := by decide
@[simp] lemma line_C407 : line 0xC407#16 = some ⟨.BEQ, .relative 0x2C#8, .plain⟩ := by decide
@[simp] lemma line_C409 : line 0xC409#16 = some ⟨.CMP, .immediate 0x7F#8, .plain⟩ := by decide
@[simp] lemma line_C40B : line 0xC40B#16 = some ⟨.BEQ, .relative 0x11#8, .plain⟩ := by decide
@[simp] lemma line_C40D : line 0xC40D#16 = some ⟨.CMP, .immediate 0x08#8, .plain⟩ := by decide
@[simp] lemma line_C40F : line 0xC40F#16 = some ⟨.BEQ, .relative 0x0D#8, .plain⟩ := by decide
@[simp] lemma line_C411 : line 0xC411#16 = some ⟨.CPX, .immediate 0x40#8, .plain⟩ := by decide
@[simp] lemma line_C413 : line 0xC413#16 = some ⟨.BCS, .relative 0xED#8, .plain⟩ := by decide
@[simp] lemma line_C415 : line 0xC415#16 = some ⟨.STA, .zeroPageX 0x00#8, .plain⟩ := by decide
@[simp] lemma line_C417 : line 0xC417#16 = some ⟨.JSR, .absolute 0xC100#16, .stack⟩ := by decide
@[simp] lemma line_C41A : line 0xC41A#16 = some ⟨.INX, .implied, .plain⟩ := by decide
@[simp] lemma line_C41B : line 0xC41B#16 = some ⟨.JMP, .absolute 0xC402#16, .plain⟩ := by decide

-- READ_LINE at a backspace
@[simp] lemma line_C41E : line 0xC41E#16 = some ⟨.CPX, .immediate 0x00#8, .plain⟩ := by decide
@[simp] lemma line_C420 : line 0xC420#16 = some ⟨.BEQ, .relative 0xE0#8, .plain⟩ := by decide
@[simp] lemma line_C422 : line 0xC422#16 = some ⟨.DEX, .implied, .plain⟩ := by decide
@[simp] lemma line_C423 : line 0xC423#16 = some ⟨.LDA, .immediate 0x08#8, .plain⟩ := by decide
@[simp] lemma line_C425 : line 0xC425#16 = some ⟨.JSR, .absolute 0xC100#16, .stack⟩ := by decide
@[simp] lemma line_C428 : line 0xC428#16 = some ⟨.LDA, .immediate 0x20#8, .plain⟩ := by decide
@[simp] lemma line_C42A : line 0xC42A#16 = some ⟨.JSR, .absolute 0xC100#16, .stack⟩ := by decide
@[simp] lemma line_C42D : line 0xC42D#16 = some ⟨.LDA, .immediate 0x08#8, .plain⟩ := by decide
@[simp] lemma line_C42F : line 0xC42F#16 = some ⟨.JSR, .absolute 0xC100#16, .stack⟩ := by decide
@[simp] lemma line_C432 : line 0xC432#16 = some ⟨.JMP, .absolute 0xC402#16, .plain⟩ := by decide

-- READ_LINE at the end of the line
@[simp] lemma line_C435 : line 0xC435#16 = some ⟨.LDA, .immediate 0x0D#8, .plain⟩ := by decide
@[simp] lemma line_C437 : line 0xC437#16 = some ⟨.JSR, .absolute 0xC100#16, .stack⟩ := by decide
@[simp] lemma line_C43A : line 0xC43A#16 = some ⟨.LDA, .immediate 0x0A#8, .plain⟩ := by decide
@[simp] lemma line_C43C : line 0xC43C#16 = some ⟨.JSR, .absolute 0xC100#16, .stack⟩ := by decide
@[simp] lemma line_C43F : line 0xC43F#16 = some ⟨.STX, .zeroPage 0x40#8, .plain⟩ := by decide
@[simp] lemma line_C441 : line 0xC441#16 = some ⟨.RTS, .implied, .stack⟩ := by decide

-- PARSE_ADDR
@[simp] lemma line_C500 : line 0xC500#16 = some ⟨.LDA, .immediate 0x00#8, .plain⟩ := by decide
@[simp] lemma line_C502 : line 0xC502#16 = some ⟨.STA, .zeroPage 0xF0#8, .plain⟩ := by decide
@[simp] lemma line_C504 : line 0xC504#16 = some ⟨.STA, .zeroPage 0xF1#8, .plain⟩ := by decide
@[simp] lemma line_C506 : line 0xC506#16 = some ⟨.STA, .zeroPage 0xF5#8, .plain⟩ := by decide
@[simp] lemma line_C508 : line 0xC508#16 = some ⟨.LDX, .zeroPage 0x41#8, .plain⟩ := by decide
@[simp] lemma line_C50A : line 0xC50A#16 = some ⟨.CPX, .zeroPage 0x40#8, .plain⟩ := by decide
@[simp] lemma line_C50C : line 0xC50C#16 = some ⟨.BCS, .relative 0x24#8, .plain⟩ := by decide
@[simp] lemma line_C50E : line 0xC50E#16 = some ⟨.LDA, .zeroPageX 0x00#8, .plain⟩ := by decide
@[simp] lemma line_C510 : line 0xC510#16 = some ⟨.JSR, .absolute 0xC700#16, .stack⟩ := by decide
@[simp] lemma line_C513 : line 0xC513#16 = some ⟨.BCS, .relative 0x1D#8, .plain⟩ := by decide

-- PARSE_ADDR at a digit
@[simp] lemma line_C515 : line 0xC515#16 = some ⟨.PHA, .implied, .stack⟩ := by decide
@[simp] lemma line_C516 : line 0xC516#16 = some ⟨.ASL, .zeroPage 0xF0#8, .plain⟩ := by decide
@[simp] lemma line_C518 : line 0xC518#16 = some ⟨.ROL, .zeroPage 0xF1#8, .plain⟩ := by decide
@[simp] lemma line_C51A : line 0xC51A#16 = some ⟨.ASL, .zeroPage 0xF0#8, .plain⟩ := by decide
@[simp] lemma line_C51C : line 0xC51C#16 = some ⟨.ROL, .zeroPage 0xF1#8, .plain⟩ := by decide
@[simp] lemma line_C51E : line 0xC51E#16 = some ⟨.ASL, .zeroPage 0xF0#8, .plain⟩ := by decide
@[simp] lemma line_C520 : line 0xC520#16 = some ⟨.ROL, .zeroPage 0xF1#8, .plain⟩ := by decide
@[simp] lemma line_C522 : line 0xC522#16 = some ⟨.ASL, .zeroPage 0xF0#8, .plain⟩ := by decide
@[simp] lemma line_C524 : line 0xC524#16 = some ⟨.ROL, .zeroPage 0xF1#8, .plain⟩ := by decide
@[simp] lemma line_C526 : line 0xC526#16 = some ⟨.PLA, .implied, .stack⟩ := by decide
@[simp] lemma line_C527 : line 0xC527#16 = some ⟨.ORA, .zeroPage 0xF0#8, .plain⟩ := by decide
@[simp] lemma line_C529 : line 0xC529#16 = some ⟨.STA, .zeroPage 0xF0#8, .plain⟩ := by decide
@[simp] lemma line_C52B : line 0xC52B#16 = some ⟨.INC, .zeroPage 0x41#8, .plain⟩ := by decide
@[simp] lemma line_C52D : line 0xC52D#16 = some ⟨.INC, .zeroPage 0xF5#8, .plain⟩ := by decide
@[simp] lemma line_C52F : line 0xC52F#16 = some ⟨.JMP, .absolute 0xC508#16, .plain⟩ := by decide

-- PARSE_ADDR behind the digits
@[simp] lemma line_C532 : line 0xC532#16 = some ⟨.LDA, .zeroPage 0xF5#8, .plain⟩ := by decide
@[simp] lemma line_C534 : line 0xC534#16 = some ⟨.BEQ, .relative 0x02#8, .plain⟩ := by decide
@[simp] lemma line_C536 : line 0xC536#16 = some ⟨.CLC, .implied, .plain⟩ := by decide
@[simp] lemma line_C537 : line 0xC537#16 = some ⟨.RTS, .implied, .stack⟩ := by decide
@[simp] lemma line_C538 : line 0xC538#16 = some ⟨.SEC, .implied, .plain⟩ := by decide
@[simp] lemma line_C539 : line 0xC539#16 = some ⟨.RTS, .implied, .stack⟩ := by decide

-- PARSE_BYTE
@[simp] lemma line_C600 : line 0xC600#16 = some ⟨.LDA, .immediate 0x00#8, .plain⟩ := by decide
@[simp] lemma line_C602 : line 0xC602#16 = some ⟨.STA, .zeroPage 0xF4#8, .plain⟩ := by decide
@[simp] lemma line_C604 : line 0xC604#16 = some ⟨.STA, .zeroPage 0xF5#8, .plain⟩ := by decide
@[simp] lemma line_C606 : line 0xC606#16 = some ⟨.LDA, .zeroPage 0xF5#8, .plain⟩ := by decide
@[simp] lemma line_C608 : line 0xC608#16 = some ⟨.CMP, .immediate 0x02#8, .plain⟩ := by decide
@[simp] lemma line_C60A : line 0xC60A#16 = some ⟨.BCS, .relative 0x22#8, .plain⟩ := by decide
@[simp] lemma line_C60C : line 0xC60C#16 = some ⟨.LDX, .zeroPage 0x41#8, .plain⟩ := by decide
@[simp] lemma line_C60E : line 0xC60E#16 = some ⟨.CPX, .zeroPage 0x40#8, .plain⟩ := by decide
@[simp] lemma line_C610 : line 0xC610#16 = some ⟨.BCS, .relative 0x1C#8, .plain⟩ := by decide
@[simp] lemma line_C612 : line 0xC612#16 = some ⟨.LDA, .zeroPageX 0x00#8, .plain⟩ := by decide
@[simp] lemma line_C614 : line 0xC614#16 = some ⟨.JSR, .absolute 0xC700#16, .stack⟩ := by decide
@[simp] lemma line_C617 : line 0xC617#16 = some ⟨.BCS, .relative 0x15#8, .plain⟩ := by decide

-- PARSE_BYTE at a digit
@[simp] lemma line_C619 : line 0xC619#16 = some ⟨.PHA, .implied, .stack⟩ := by decide
@[simp] lemma line_C61A : line 0xC61A#16 = some ⟨.ASL, .zeroPage 0xF4#8, .plain⟩ := by decide
@[simp] lemma line_C61C : line 0xC61C#16 = some ⟨.ASL, .zeroPage 0xF4#8, .plain⟩ := by decide
@[simp] lemma line_C61E : line 0xC61E#16 = some ⟨.ASL, .zeroPage 0xF4#8, .plain⟩ := by decide
@[simp] lemma line_C620 : line 0xC620#16 = some ⟨.ASL, .zeroPage 0xF4#8, .plain⟩ := by decide
@[simp] lemma line_C622 : line 0xC622#16 = some ⟨.PLA, .implied, .stack⟩ := by decide
@[simp] lemma line_C623 : line 0xC623#16 = some ⟨.ORA, .zeroPage 0xF4#8, .plain⟩ := by decide
@[simp] lemma line_C625 : line 0xC625#16 = some ⟨.STA, .zeroPage 0xF4#8, .plain⟩ := by decide
@[simp] lemma line_C627 : line 0xC627#16 = some ⟨.INC, .zeroPage 0x41#8, .plain⟩ := by decide
@[simp] lemma line_C629 : line 0xC629#16 = some ⟨.INC, .zeroPage 0xF5#8, .plain⟩ := by decide
@[simp] lemma line_C62B : line 0xC62B#16 = some ⟨.JMP, .absolute 0xC606#16, .plain⟩ := by decide

-- PARSE_BYTE behind the digits
@[simp] lemma line_C62E : line 0xC62E#16 = some ⟨.LDA, .zeroPage 0xF5#8, .plain⟩ := by decide
@[simp] lemma line_C630 : line 0xC630#16 = some ⟨.BEQ, .relative 0x02#8, .plain⟩ := by decide
@[simp] lemma line_C632 : line 0xC632#16 = some ⟨.CLC, .implied, .plain⟩ := by decide
@[simp] lemma line_C633 : line 0xC633#16 = some ⟨.RTS, .implied, .stack⟩ := by decide
@[simp] lemma line_C634 : line 0xC634#16 = some ⟨.SEC, .implied, .plain⟩ := by decide
@[simp] lemma line_C635 : line 0xC635#16 = some ⟨.RTS, .implied, .stack⟩ := by decide

-- HEXVAL
@[simp] lemma line_C700 : line 0xC700#16 = some ⟨.CMP, .immediate 0x30#8, .plain⟩ := by decide
@[simp] lemma line_C702 : line 0xC702#16 = some ⟨.BCC, .relative 0x23#8, .plain⟩ := by decide
@[simp] lemma line_C704 : line 0xC704#16 = some ⟨.CMP, .immediate 0x3A#8, .plain⟩ := by decide
@[simp] lemma line_C706 : line 0xC706#16 = some ⟨.BCS, .relative 0x05#8, .plain⟩ := by decide
@[simp] lemma line_C708 : line 0xC708#16 = some ⟨.SEC, .implied, .plain⟩ := by decide
@[simp] lemma line_C709 : line 0xC709#16 = some ⟨.SBC, .immediate 0x30#8, .plain⟩ := by decide
@[simp] lemma line_C70B : line 0xC70B#16 = some ⟨.CLC, .implied, .plain⟩ := by decide
@[simp] lemma line_C70C : line 0xC70C#16 = some ⟨.RTS, .implied, .stack⟩ := by decide
@[simp] lemma line_C70D : line 0xC70D#16 = some ⟨.CMP, .immediate 0x41#8, .plain⟩ := by decide
@[simp] lemma line_C70F : line 0xC70F#16 = some ⟨.BCC, .relative 0x16#8, .plain⟩ := by decide
@[simp] lemma line_C711 : line 0xC711#16 = some ⟨.CMP, .immediate 0x47#8, .plain⟩ := by decide
@[simp] lemma line_C713 : line 0xC713#16 = some ⟨.BCS, .relative 0x05#8, .plain⟩ := by decide
@[simp] lemma line_C715 : line 0xC715#16 = some ⟨.SEC, .implied, .plain⟩ := by decide
@[simp] lemma line_C716 : line 0xC716#16 = some ⟨.SBC, .immediate 0x37#8, .plain⟩ := by decide
@[simp] lemma line_C718 : line 0xC718#16 = some ⟨.CLC, .implied, .plain⟩ := by decide
@[simp] lemma line_C719 : line 0xC719#16 = some ⟨.RTS, .implied, .stack⟩ := by decide
@[simp] lemma line_C71A : line 0xC71A#16 = some ⟨.CMP, .immediate 0x61#8, .plain⟩ := by decide
@[simp] lemma line_C71C : line 0xC71C#16 = some ⟨.BCC, .relative 0x09#8, .plain⟩ := by decide
@[simp] lemma line_C71E : line 0xC71E#16 = some ⟨.CMP, .immediate 0x67#8, .plain⟩ := by decide
@[simp] lemma line_C720 : line 0xC720#16 = some ⟨.BCS, .relative 0x05#8, .plain⟩ := by decide
@[simp] lemma line_C722 : line 0xC722#16 = some ⟨.SEC, .implied, .plain⟩ := by decide
@[simp] lemma line_C723 : line 0xC723#16 = some ⟨.SBC, .immediate 0x57#8, .plain⟩ := by decide
@[simp] lemma line_C725 : line 0xC725#16 = some ⟨.CLC, .implied, .plain⟩ := by decide
@[simp] lemma line_C726 : line 0xC726#16 = some ⟨.RTS, .implied, .stack⟩ := by decide
@[simp] lemma line_C727 : line 0xC727#16 = some ⟨.SEC, .implied, .plain⟩ := by decide
@[simp] lemma line_C728 : line 0xC728#16 = some ⟨.RTS, .implied, .stack⟩ := by decide

-- DISPATCH
@[simp] lemma line_C800 : line 0xC800#16 = some ⟨.LDA, .zeroPage 0x41#8, .plain⟩ := by decide
@[simp] lemma line_C802 : line 0xC802#16 = some ⟨.CMP, .zeroPage 0x40#8, .plain⟩ := by decide
@[simp] lemma line_C804 : line 0xC804#16 = some ⟨.BCC, .relative 0x03#8, .plain⟩ := by decide
@[simp] lemma line_C806 : line 0xC806#16 = some ⟨.JMP, .absolute 0xCA00#16, .plain⟩ := by decide
@[simp] lemma line_C809 : line 0xC809#16 = some ⟨.LDX, .zeroPage 0x41#8, .plain⟩ := by decide
@[simp] lemma line_C80B : line 0xC80B#16 = some ⟨.LDA, .zeroPageX 0x00#8, .plain⟩ := by decide
@[simp] lemma line_C80D : line 0xC80D#16 = some ⟨.CMP, .immediate 0x2E#8, .plain⟩ := by decide
@[simp] lemma line_C80F : line 0xC80F#16 = some ⟨.BEQ, .relative 0x0B#8, .plain⟩ := by decide
@[simp] lemma line_C811 : line 0xC811#16 = some ⟨.CMP, .immediate 0x3A#8, .plain⟩ := by decide
@[simp] lemma line_C813 : line 0xC813#16 = some ⟨.BEQ, .relative 0x4D#8, .plain⟩ := by decide
@[simp] lemma line_C815 : line 0xC815#16 = some ⟨.CMP, .immediate 0x20#8, .plain⟩ := by decide
@[simp] lemma line_C817 : line 0xC817#16 = some ⟨.BEQ, .relative 0x4E#8, .plain⟩ := by decide
@[simp] lemma line_C819 : line 0xC819#16 = some ⟨.JMP, .absolute 0xC888#16, .plain⟩ := by decide

-- DISPATCH at a dot
@[simp] lemma line_C81C : line 0xC81C#16 = some ⟨.INC, .zeroPage 0x41#8, .plain⟩ := by decide
@[simp] lemma line_C81E : line 0xC81E#16 = some ⟨.LDA, .zeroPage 0xF0#8, .plain⟩ := by decide
@[simp] lemma line_C820 : line 0xC820#16 = some ⟨.STA, .zeroPage 0xF2#8, .plain⟩ := by decide
@[simp] lemma line_C822 : line 0xC822#16 = some ⟨.LDA, .zeroPage 0xF1#8, .plain⟩ := by decide
@[simp] lemma line_C824 : line 0xC824#16 = some ⟨.STA, .zeroPage 0xF3#8, .plain⟩ := by decide
@[simp] lemma line_C826 : line 0xC826#16 = some ⟨.JSR, .absolute 0xC500#16, .stack⟩ := by decide
@[simp] lemma line_C829 : line 0xC829#16 = some ⟨.BCS, .relative 0x5D#8, .plain⟩ := by decide
@[simp] lemma line_C82B : line 0xC82B#16 = some ⟨.LDA, .zeroPage 0xF0#8, .plain⟩ := by decide
@[simp] lemma line_C82D : line 0xC82D#16 = some ⟨.STA, .zeroPage 0xF5#8, .plain⟩ := by decide
@[simp] lemma line_C82F : line 0xC82F#16 = some ⟨.LDA, .zeroPage 0xF1#8, .plain⟩ := by decide
@[simp] lemma line_C831 : line 0xC831#16 = some ⟨.STA, .zeroPage 0xF6#8, .plain⟩ := by decide
@[simp] lemma line_C833 : line 0xC833#16 = some ⟨.LDA, .zeroPage 0xF2#8, .plain⟩ := by decide
@[simp] lemma line_C835 : line 0xC835#16 = some ⟨.STA, .zeroPage 0xF0#8, .plain⟩ := by decide
@[simp] lemma line_C837 : line 0xC837#16 = some ⟨.LDA, .zeroPage 0xF3#8, .plain⟩ := by decide
@[simp] lemma line_C839 : line 0xC839#16 = some ⟨.STA, .zeroPage 0xF1#8, .plain⟩ := by decide
@[simp] lemma line_C83B : line 0xC83B#16 = some ⟨.LDA, .zeroPage 0xF5#8, .plain⟩ := by decide
@[simp] lemma line_C83D : line 0xC83D#16 = some ⟨.STA, .zeroPage 0xF2#8, .plain⟩ := by decide
@[simp] lemma line_C83F : line 0xC83F#16 = some ⟨.LDA, .zeroPage 0xF6#8, .plain⟩ := by decide
@[simp] lemma line_C841 : line 0xC841#16 = some ⟨.STA, .zeroPage 0xF3#8, .plain⟩ := by decide

-- DISPATCH behind a range
@[simp] lemma line_C843 : line 0xC843#16 = some ⟨.LDA, .zeroPage 0x41#8, .plain⟩ := by decide
@[simp] lemma line_C845 : line 0xC845#16 = some ⟨.CMP, .zeroPage 0x40#8, .plain⟩ := by decide
@[simp] lemma line_C847 : line 0xC847#16 = some ⟨.BCC, .relative 0x03#8, .plain⟩ := by decide
@[simp] lemma line_C849 : line 0xC849#16 = some ⟨.JMP, .absolute 0xCB00#16, .plain⟩ := by decide
@[simp] lemma line_C84C : line 0xC84C#16 = some ⟨.LDX, .zeroPage 0x41#8, .plain⟩ := by decide
@[simp] lemma line_C84E : line 0xC84E#16 = some ⟨.LDA, .zeroPageX 0x00#8, .plain⟩ := by decide
@[simp] lemma line_C850 : line 0xC850#16 = some ⟨.CMP, .immediate 0x20#8, .plain⟩ := by decide
@[simp] lemma line_C852 : line 0xC852#16 = some ⟨.BNE, .relative 0x34#8, .plain⟩ := by decide
@[simp] lemma line_C854 : line 0xC854#16 = some ⟨.INX, .implied, .plain⟩ := by decide
@[simp] lemma line_C855 : line 0xC855#16 = some ⟨.CPX, .zeroPage 0x40#8, .plain⟩ := by decide
@[simp] lemma line_C857 : line 0xC857#16 = some ⟨.BCS, .relative 0x2F#8, .plain⟩ := by decide
@[simp] lemma line_C859 : line 0xC859#16 = some ⟨.LDA, .zeroPageX 0x00#8, .plain⟩ := by decide
@[simp] lemma line_C85B : line 0xC85B#16 = some ⟨.CMP, .immediate 0x53#8, .plain⟩ := by decide
@[simp] lemma line_C85D : line 0xC85D#16 = some ⟨.BNE, .relative 0x29#8, .plain⟩ := by decide
@[simp] lemma line_C85F : line 0xC85F#16 = some ⟨.JMP, .absolute 0xD000#16, .plain⟩ := by decide

-- DISPATCH at a colon
@[simp] lemma line_C862 : line 0xC862#16 = some ⟨.INC, .zeroPage 0x41#8, .plain⟩ := by decide
@[simp] lemma line_C864 : line 0xC864#16 = some ⟨.JMP, .absolute 0xCC00#16, .plain⟩ := by decide

-- DISPATCH at a space
@[simp] lemma line_C867 : line 0xC867#16 = some ⟨.LDX, .zeroPage 0x41#8, .plain⟩ := by decide
@[simp] lemma line_C869 : line 0xC869#16 = some ⟨.INX, .implied, .plain⟩ := by decide
@[simp] lemma line_C86A : line 0xC86A#16 = some ⟨.CPX, .zeroPage 0x40#8, .plain⟩ := by decide
@[simp] lemma line_C86C : line 0xC86C#16 = some ⟨.BCS, .relative 0x1A#8, .plain⟩ := by decide
@[simp] lemma line_C86E : line 0xC86E#16 = some ⟨.LDA, .zeroPageX 0x00#8, .plain⟩ := by decide
@[simp] lemma line_C870 : line 0xC870#16 = some ⟨.CMP, .immediate 0x52#8, .plain⟩ := by decide
@[simp] lemma line_C872 : line 0xC872#16 = some ⟨.BEQ, .relative 0x0B#8, .plain⟩ := by decide
@[simp] lemma line_C874 : line 0xC874#16 = some ⟨.CMP, .immediate 0x4C#8, .plain⟩ := by decide
@[simp] lemma line_C876 : line 0xC876#16 = some ⟨.BEQ, .relative 0x0A#8, .plain⟩ := by decide
@[simp] lemma line_C878 : line 0xC878#16 = some ⟨.CMP, .immediate 0x57#8, .plain⟩ := by decide
@[simp] lemma line_C87A : line 0xC87A#16 = some ⟨.BEQ, .relative 0x09#8, .plain⟩ := by decide
@[simp] lemma line_C87C : line 0xC87C#16 = some ⟨.JMP, .absolute 0xC888#16, .plain⟩ := by decide
@[simp] lemma line_C87F : line 0xC87F#16 = some ⟨.JMP, .absolute 0xCD00#16, .plain⟩ := by decide
@[simp] lemma line_C882 : line 0xC882#16 = some ⟨.JMP, .absolute 0xD100#16, .plain⟩ := by decide
@[simp] lemma line_C885 : line 0xC885#16 = some ⟨.JMP, .absolute 0xD200#16, .plain⟩ := by decide

-- DISPATCH at anything else
@[simp] lemma line_C888 : line 0xC888#16 = some ⟨.LDA, .immediate 0x3F#8, .plain⟩ := by decide
@[simp] lemma line_C88A : line 0xC88A#16 = some ⟨.JSR, .absolute 0xC100#16, .stack⟩ := by decide
@[simp] lemma line_C88D : line 0xC88D#16 = some ⟨.LDA, .immediate 0x0D#8, .plain⟩ := by decide
@[simp] lemma line_C88F : line 0xC88F#16 = some ⟨.JSR, .absolute 0xC100#16, .stack⟩ := by decide
@[simp] lemma line_C892 : line 0xC892#16 = some ⟨.LDA, .immediate 0x0A#8, .plain⟩ := by decide
@[simp] lemma line_C894 : line 0xC894#16 = some ⟨.JSR, .absolute 0xC100#16, .stack⟩ := by decide
@[simp] lemma line_C897 : line 0xC897#16 = some ⟨.RTS, .implied, .stack⟩ := by decide

-- PEEK
@[simp] lemma line_CA00 : line 0xCA00#16 = some ⟨.LDA, .zeroPage 0xF1#8, .seen⟩ := by decide
@[simp] lemma line_CA02 : line 0xCA02#16 = some ⟨.JSR, .absolute 0xC200#16, .stack⟩ := by decide
@[simp] lemma line_CA05 : line 0xCA05#16 = some ⟨.LDA, .zeroPage 0xF0#8, .plain⟩ := by decide
@[simp] lemma line_CA07 : line 0xCA07#16 = some ⟨.JSR, .absolute 0xC200#16, .stack⟩ := by decide
@[simp] lemma line_CA0A : line 0xCA0A#16 = some ⟨.LDA, .immediate 0x3A#8, .plain⟩ := by decide
@[simp] lemma line_CA0C : line 0xCA0C#16 = some ⟨.JSR, .absolute 0xC100#16, .stack⟩ := by decide
@[simp] lemma line_CA0F : line 0xCA0F#16 = some ⟨.LDA, .immediate 0x20#8, .plain⟩ := by decide
@[simp] lemma line_CA11 : line 0xCA11#16 = some ⟨.JSR, .absolute 0xC100#16, .stack⟩ := by decide
@[simp] lemma line_CA14 : line 0xCA14#16 = some ⟨.LDY, .immediate 0x00#8, .plain⟩ := by decide
@[simp] lemma line_CA16 : line 0xCA16#16 = some ⟨.LDA, .indirectY 0xF0#8, .seen⟩ := by decide
@[simp] lemma line_CA18 : line 0xCA18#16 = some ⟨.JSR, .absolute 0xC200#16, .stack⟩ := by decide
@[simp] lemma line_CA1B : line 0xCA1B#16 = some ⟨.LDA, .immediate 0x0D#8, .plain⟩ := by decide
@[simp] lemma line_CA1D : line 0xCA1D#16 = some ⟨.JSR, .absolute 0xC100#16, .stack⟩ := by decide
@[simp] lemma line_CA20 : line 0xCA20#16 = some ⟨.LDA, .immediate 0x0A#8, .plain⟩ := by decide
@[simp] lemma line_CA22 : line 0xCA22#16 = some ⟨.JSR, .absolute 0xC100#16, .stack⟩ := by decide
@[simp] lemma line_CA25 : line 0xCA25#16 = some ⟨.RTS, .implied, .stack⟩ := by decide

-- LIST
@[simp] lemma line_CB00 : line 0xCB00#16 = some ⟨.LDA, .immediate 0x00#8, .seen⟩ := by decide
@[simp] lemma line_CB02 : line 0xCB02#16 = some ⟨.STA, .zeroPage 0xF7#8, .plain⟩ := by decide
@[simp] lemma line_CB04 : line 0xCB04#16 = some ⟨.LDA, .zeroPage 0xF1#8, .plain⟩ := by decide
@[simp] lemma line_CB06 : line 0xCB06#16 = some ⟨.CMP, .zeroPage 0xF3#8, .plain⟩ := by decide
@[simp] lemma line_CB08 : line 0xCB08#16 = some ⟨.BCC, .relative 0x0A#8, .plain⟩ := by decide
@[simp] lemma line_CB0A : line 0xCB0A#16 = some ⟨.BNE, .relative 0x4B#8, .plain⟩ := by decide
@[simp] lemma line_CB0C : line 0xCB0C#16 = some ⟨.LDA, .zeroPage 0xF0#8, .plain⟩ := by decide
@[simp] lemma line_CB0E : line 0xCB0E#16 = some ⟨.CMP, .zeroPage 0xF2#8, .plain⟩ := by decide
@[simp] lemma line_CB10 : line 0xCB10#16 = some ⟨.BEQ, .relative 0x02#8, .plain⟩ := by decide
@[simp] lemma line_CB12 : line 0xCB12#16 = some ⟨.BCS, .relative 0x43#8, .plain⟩ := by decide

-- LIST at a byte
@[simp] lemma line_CB14 : line 0xCB14#16 = some ⟨.LDA, .zeroPage 0xF7#8, .plain⟩ := by decide
@[simp] lemma line_CB16 : line 0xCB16#16 = some ⟨.BNE, .relative 0x14#8, .plain⟩ := by decide
@[simp] lemma line_CB18 : line 0xCB18#16 = some ⟨.LDA, .zeroPage 0xF1#8, .plain⟩ := by decide
@[simp] lemma line_CB1A : line 0xCB1A#16 = some ⟨.JSR, .absolute 0xC200#16, .stack⟩ := by decide
@[simp] lemma line_CB1D : line 0xCB1D#16 = some ⟨.LDA, .zeroPage 0xF0#8, .plain⟩ := by decide
@[simp] lemma line_CB1F : line 0xCB1F#16 = some ⟨.JSR, .absolute 0xC200#16, .stack⟩ := by decide
@[simp] lemma line_CB22 : line 0xCB22#16 = some ⟨.LDA, .immediate 0x3A#8, .plain⟩ := by decide
@[simp] lemma line_CB24 : line 0xCB24#16 = some ⟨.JSR, .absolute 0xC100#16, .stack⟩ := by decide
@[simp] lemma line_CB27 : line 0xCB27#16 = some ⟨.LDA, .immediate 0x20#8, .plain⟩ := by decide
@[simp] lemma line_CB29 : line 0xCB29#16 = some ⟨.JSR, .absolute 0xC100#16, .stack⟩ := by decide
@[simp] lemma line_CB2C : line 0xCB2C#16 = some ⟨.LDY, .immediate 0x00#8, .plain⟩ := by decide
@[simp] lemma line_CB2E : line 0xCB2E#16 = some ⟨.LDA, .indirectY 0xF0#8, .seen⟩ := by decide
@[simp] lemma line_CB30 : line 0xCB30#16 = some ⟨.JSR, .absolute 0xC200#16, .stack⟩ := by decide
@[simp] lemma line_CB33 : line 0xCB33#16 = some ⟨.LDA, .immediate 0x20#8, .plain⟩ := by decide
@[simp] lemma line_CB35 : line 0xCB35#16 = some ⟨.JSR, .absolute 0xC100#16, .stack⟩ := by decide

-- LIST behind a byte
@[simp] lemma line_CB38 : line 0xCB38#16 = some ⟨.INC, .zeroPage 0xF0#8, .plain⟩ := by decide
@[simp] lemma line_CB3A : line 0xCB3A#16 = some ⟨.BNE, .relative 0x02#8, .plain⟩ := by decide
@[simp] lemma line_CB3C : line 0xCB3C#16 = some ⟨.INC, .zeroPage 0xF1#8, .plain⟩ := by decide
@[simp] lemma line_CB3E : line 0xCB3E#16 = some ⟨.INC, .zeroPage 0xF7#8, .plain⟩ := by decide
@[simp] lemma line_CB40 : line 0xCB40#16 = some ⟨.LDA, .zeroPage 0xF7#8, .plain⟩ := by decide
@[simp] lemma line_CB42 : line 0xCB42#16 = some ⟨.CMP, .immediate 0x10#8, .plain⟩ := by decide
@[simp] lemma line_CB44 : line 0xCB44#16 = some ⟨.BCC, .relative 0xBE#8, .plain⟩ := by decide
@[simp] lemma line_CB46 : line 0xCB46#16 = some ⟨.LDA, .immediate 0x0D#8, .plain⟩ := by decide
@[simp] lemma line_CB48 : line 0xCB48#16 = some ⟨.JSR, .absolute 0xC100#16, .stack⟩ := by decide
@[simp] lemma line_CB4B : line 0xCB4B#16 = some ⟨.LDA, .immediate 0x0A#8, .plain⟩ := by decide
@[simp] lemma line_CB4D : line 0xCB4D#16 = some ⟨.JSR, .absolute 0xC100#16, .stack⟩ := by decide
@[simp] lemma line_CB50 : line 0xCB50#16 = some ⟨.LDA, .immediate 0x00#8, .plain⟩ := by decide
@[simp] lemma line_CB52 : line 0xCB52#16 = some ⟨.STA, .zeroPage 0xF7#8, .plain⟩ := by decide
@[simp] lemma line_CB54 : line 0xCB54#16 = some ⟨.JMP, .absolute 0xCB04#16, .plain⟩ := by decide

-- LIST at the end of the range
@[simp] lemma line_CB57 : line 0xCB57#16 = some ⟨.LDA, .zeroPage 0xF7#8, .plain⟩ := by decide
@[simp] lemma line_CB59 : line 0xCB59#16 = some ⟨.BEQ, .relative 0x0A#8, .plain⟩ := by decide
@[simp] lemma line_CB5B : line 0xCB5B#16 = some ⟨.LDA, .immediate 0x0D#8, .plain⟩ := by decide
@[simp] lemma line_CB5D : line 0xCB5D#16 = some ⟨.JSR, .absolute 0xC100#16, .stack⟩ := by decide
@[simp] lemma line_CB60 : line 0xCB60#16 = some ⟨.LDA, .immediate 0x0A#8, .plain⟩ := by decide
@[simp] lemma line_CB62 : line 0xCB62#16 = some ⟨.JSR, .absolute 0xC100#16, .stack⟩ := by decide
@[simp] lemma line_CB65 : line 0xCB65#16 = some ⟨.RTS, .implied, .stack⟩ := by decide

-- POKE
@[simp] lemma line_CC00 : line 0xCC00#16 = some ⟨.LDA, .zeroPage 0x41#8, .seen⟩ := by decide
@[simp] lemma line_CC02 : line 0xCC02#16 = some ⟨.CMP, .zeroPage 0x40#8, .plain⟩ := by decide
@[simp] lemma line_CC04 : line 0xCC04#16 = some ⟨.BCS, .relative 0x21#8, .plain⟩ := by decide
@[simp] lemma line_CC06 : line 0xCC06#16 = some ⟨.LDX, .zeroPage 0x41#8, .plain⟩ := by decide
@[simp] lemma line_CC08 : line 0xCC08#16 = some ⟨.LDA, .zeroPageX 0x00#8, .plain⟩ := by decide
@[simp] lemma line_CC0A : line 0xCC0A#16 = some ⟨.CMP, .immediate 0x20#8, .plain⟩ := by decide
@[simp] lemma line_CC0C : line 0xCC0C#16 = some ⟨.BNE, .relative 0x05#8, .plain⟩ := by decide
@[simp] lemma line_CC0E : line 0xCC0E#16 = some ⟨.INC, .zeroPage 0x41#8, .plain⟩ := by decide
@[simp] lemma line_CC10 : line 0xCC10#16 = some ⟨.JMP, .absolute 0xCC00#16, .plain⟩ := by decide
@[simp] lemma line_CC13 : line 0xCC13#16 = some ⟨.JSR, .absolute 0xC600#16, .stack⟩ := by decide
@[simp] lemma line_CC16 : line 0xCC16#16 = some ⟨.BCS, .relative 0x0F#8, .plain⟩ := by decide
@[simp] lemma line_CC18 : line 0xCC18#16 = some ⟨.LDY, .immediate 0x00#8, .plain⟩ := by decide
@[simp] lemma line_CC1A : line 0xCC1A#16 = some ⟨.LDA, .zeroPage 0xF4#8, .plain⟩ := by decide
@[simp] lemma line_CC1C : line 0xCC1C#16 = some ⟨.STA, .indirectY 0xF0#8, .seen⟩ := by decide
@[simp] lemma line_CC1E : line 0xCC1E#16 = some ⟨.INC, .zeroPage 0xF0#8, .plain⟩ := by decide
@[simp] lemma line_CC20 : line 0xCC20#16 = some ⟨.BNE, .relative 0x02#8, .plain⟩ := by decide
@[simp] lemma line_CC22 : line 0xCC22#16 = some ⟨.INC, .zeroPage 0xF1#8, .plain⟩ := by decide
@[simp] lemma line_CC24 : line 0xCC24#16 = some ⟨.JMP, .absolute 0xCC00#16, .plain⟩ := by decide
@[simp] lemma line_CC27 : line 0xCC27#16 = some ⟨.RTS, .implied, .stack⟩ := by decide

-- WARM_START
@[simp] lemma line_CF0E : line 0xCF0E#16 = some ⟨.LDX, .immediate 0xFF#8, .plain⟩ := by decide
@[simp] lemma line_CF10 : line 0xCF10#16 = some ⟨.TXS, .implied, .stack⟩ := by decide

-- RUN
@[simp] lemma line_CD00 : line 0xCD00#16 = some ⟨.LDA, .immediate 0x20#8, .seen⟩ := by decide
@[simp] lemma line_CD02 : line 0xCD02#16 = some ⟨.STA, .zeroPage 0xF8#8, .plain⟩ := by decide
@[simp] lemma line_CD04 : line 0xCD04#16 = some ⟨.LDA, .zeroPage 0xF0#8, .plain⟩ := by decide
@[simp] lemma line_CD06 : line 0xCD06#16 = some ⟨.STA, .zeroPage 0xF9#8, .plain⟩ := by decide
@[simp] lemma line_CD08 : line 0xCD08#16 = some ⟨.LDA, .zeroPage 0xF1#8, .plain⟩ := by decide
@[simp] lemma line_CD0A : line 0xCD0A#16 = some ⟨.STA, .zeroPage 0xFA#8, .plain⟩ := by decide
@[simp] lemma line_CD0C : line 0xCD0C#16 = some ⟨.LDA, .immediate 0x60#8, .plain⟩ := by decide
@[simp] lemma line_CD0E : line 0xCD0E#16 = some ⟨.STA, .zeroPage 0xFB#8, .plain⟩ := by decide
@[simp] lemma line_CD10 : line 0xCD10#16 = some ⟨.JSR, .absolute 0x00F8#16, .stack⟩ := by decide
@[simp] lemma line_CD13 : line 0xCD13#16 = some ⟨.RTS, .implied, .stack⟩ := by decide

-- MAIN_LOOP
@[simp] lemma line_CF11 : line 0xCF11#16 = some ⟨.LDA, .immediate 0x0F#8, .seen⟩ := by decide
@[simp] lemma line_CF13 : line 0xCF13#16 = some ⟨.STA, .zeroPage 0xFC#8, .plain⟩ := by decide
@[simp] lemma line_CF15 : line 0xCF15#16 = some ⟨.LDA, .immediate 0xCE#8, .plain⟩ := by decide
@[simp] lemma line_CF17 : line 0xCF17#16 = some ⟨.STA, .zeroPage 0xFD#8, .plain⟩ := by decide
@[simp] lemma line_CF19 : line 0xCF19#16 = some ⟨.JSR, .absolute 0xC300#16, .stack⟩ := by decide
@[simp] lemma line_CF1C : line 0xCF1C#16 = some ⟨.JSR, .absolute 0xC400#16, .stack⟩ := by decide
@[simp] lemma line_CF1F : line 0xCF1F#16 = some ⟨.LDA, .immediate 0x00#8, .plain⟩ := by decide
@[simp] lemma line_CF21 : line 0xCF21#16 = some ⟨.STA, .zeroPage 0x41#8, .plain⟩ := by decide
@[simp] lemma line_CF23 : line 0xCF23#16 = some ⟨.JSR, .absolute 0xC500#16, .stack⟩ := by decide
@[simp] lemma line_CF26 : line 0xCF26#16 = some ⟨.BCS, .relative 0x06#8, .plain⟩ := by decide
@[simp] lemma line_CF28 : line 0xCF28#16 = some ⟨.JSR, .absolute 0xC800#16, .stack⟩ := by decide
@[simp] lemma line_CF2B : line 0xCF2B#16 = some ⟨.JMP, .absolute 0xCF11#16, .plain⟩ := by decide

-- BADLINE
@[simp] lemma line_CF2E : line 0xCF2E#16 = some ⟨.LDA, .immediate 0x3F#8, .plain⟩ := by decide
@[simp] lemma line_CF30 : line 0xCF30#16 = some ⟨.JSR, .absolute 0xC100#16, .stack⟩ := by decide
@[simp] lemma line_CF33 : line 0xCF33#16 = some ⟨.LDA, .immediate 0x0D#8, .plain⟩ := by decide
@[simp] lemma line_CF35 : line 0xCF35#16 = some ⟨.JSR, .absolute 0xC100#16, .stack⟩ := by decide
@[simp] lemma line_CF38 : line 0xCF38#16 = some ⟨.LDA, .immediate 0x0A#8, .plain⟩ := by decide
@[simp] lemma line_CF3A : line 0xCF3A#16 = some ⟨.JSR, .absolute 0xC100#16, .stack⟩ := by decide
@[simp] lemma line_CF3D : line 0xCF3D#16 = some ⟨.JMP, .absolute 0xCF11#16, .plain⟩ := by decide

-- SAVE
@[simp] lemma line_D000 : line 0xD000#16 = some ⟨.LDA, .absolute 0x8002#16, .seen⟩ := by decide
@[simp] lemma line_D003 : line 0xD003#16 = some ⟨.AND, .immediate 0x01#8, .plain⟩ := by decide
@[simp] lemma line_D005 : line 0xD005#16 = some ⟨.BNE, .relative 0x03#8, .plain⟩ := by decide
@[simp] lemma line_D007 : line 0xD007#16 = some ⟨.JMP, .absolute 0xD070#16, .plain⟩ := by decide
@[simp] lemma line_D00A : line 0xD00A#16 = some ⟨.LDA, .zeroPage 0xF3#8, .plain⟩ := by decide
@[simp] lemma line_D00C : line 0xD00C#16 = some ⟨.CMP, .zeroPage 0xF1#8, .plain⟩ := by decide
@[simp] lemma line_D00E : line 0xD00E#16 = some ⟨.BCC, .relative 0x08#8, .plain⟩ := by decide
@[simp] lemma line_D010 : line 0xD010#16 = some ⟨.BNE, .relative 0x09#8, .plain⟩ := by decide
@[simp] lemma line_D012 : line 0xD012#16 = some ⟨.LDA, .zeroPage 0xF2#8, .plain⟩ := by decide
@[simp] lemma line_D014 : line 0xD014#16 = some ⟨.CMP, .zeroPage 0xF0#8, .plain⟩ := by decide
@[simp] lemma line_D016 : line 0xD016#16 = some ⟨.BCS, .relative 0x03#8, .plain⟩ := by decide
@[simp] lemma line_D018 : line 0xD018#16 = some ⟨.JMP, .absolute 0xD070#16, .plain⟩ := by decide

-- SAVE, the length
@[simp] lemma line_D01B : line 0xD01B#16 = some ⟨.LDA, .immediate 0x01#8, .plain⟩ := by decide
@[simp] lemma line_D01D : line 0xD01D#16 = some ⟨.STA, .absolute 0x8003#16, .seen⟩ := by decide
@[simp] lemma line_D020 : line 0xD020#16 = some ⟨.SEC, .implied, .plain⟩ := by decide
@[simp] lemma line_D021 : line 0xD021#16 = some ⟨.LDA, .zeroPage 0xF2#8, .plain⟩ := by decide
@[simp] lemma line_D023 : line 0xD023#16 = some ⟨.SBC, .zeroPage 0xF0#8, .plain⟩ := by decide
@[simp] lemma line_D025 : line 0xD025#16 = some ⟨.STA, .zeroPage 0x42#8, .plain⟩ := by decide
@[simp] lemma line_D027 : line 0xD027#16 = some ⟨.LDA, .zeroPage 0xF3#8, .plain⟩ := by decide
@[simp] lemma line_D029 : line 0xD029#16 = some ⟨.SBC, .zeroPage 0xF1#8, .plain⟩ := by decide
@[simp] lemma line_D02B : line 0xD02B#16 = some ⟨.STA, .zeroPage 0x43#8, .plain⟩ := by decide
@[simp] lemma line_D02D : line 0xD02D#16 = some ⟨.INC, .zeroPage 0x42#8, .plain⟩ := by decide
@[simp] lemma line_D02F : line 0xD02F#16 = some ⟨.BNE, .relative 0x02#8, .plain⟩ := by decide
@[simp] lemma line_D031 : line 0xD031#16 = some ⟨.INC, .zeroPage 0x43#8, .plain⟩ := by decide
@[simp] lemma line_D033 : line 0xD033#16 = some ⟨.LDA, .immediate 0x00#8, .plain⟩ := by decide
@[simp] lemma line_D035 : line 0xD035#16 = some ⟨.STA, .zeroPage 0x44#8, .plain⟩ := by decide
@[simp] lemma line_D037 : line 0xD037#16 = some ⟨.LDA, .zeroPage 0x42#8, .plain⟩ := by decide
@[simp] lemma line_D039 : line 0xD039#16 = some ⟨.STA, .absolute 0x8004#16, .seen⟩ := by decide
@[simp] lemma line_D03C : line 0xD03C#16 = some ⟨.LDA, .zeroPage 0x43#8, .plain⟩ := by decide
@[simp] lemma line_D03E : line 0xD03E#16 = some ⟨.STA, .absolute 0x8004#16, .seen⟩ := by decide

-- SAVE, the data
@[simp] lemma line_D041 : line 0xD041#16 = some ⟨.LDA, .zeroPage 0xF1#8, .plain⟩ := by decide
@[simp] lemma line_D043 : line 0xD043#16 = some ⟨.CMP, .zeroPage 0xF3#8, .plain⟩ := by decide
@[simp] lemma line_D045 : line 0xD045#16 = some ⟨.BCC, .relative 0x0A#8, .plain⟩ := by decide
@[simp] lemma line_D047 : line 0xD047#16 = some ⟨.BNE, .relative 0x1C#8, .plain⟩ := by decide
@[simp] lemma line_D049 : line 0xD049#16 = some ⟨.LDA, .zeroPage 0xF0#8, .plain⟩ := by decide
@[simp] lemma line_D04B : line 0xD04B#16 = some ⟨.CMP, .zeroPage 0xF2#8, .plain⟩ := by decide
@[simp] lemma line_D04D : line 0xD04D#16 = some ⟨.BEQ, .relative 0x02#8, .plain⟩ := by decide
@[simp] lemma line_D04F : line 0xD04F#16 = some ⟨.BCS, .relative 0x14#8, .plain⟩ := by decide
@[simp] lemma line_D051 : line 0xD051#16 = some ⟨.LDY, .immediate 0x00#8, .plain⟩ := by decide
@[simp] lemma line_D053 : line 0xD053#16 = some ⟨.LDA, .indirectY 0xF0#8, .seen⟩ := by decide
@[simp] lemma line_D055 : line 0xD055#16 = some ⟨.STA, .absolute 0x8004#16, .seen⟩ := by decide
@[simp] lemma line_D058 : line 0xD058#16 = some ⟨.EOR, .zeroPage 0x44#8, .plain⟩ := by decide
@[simp] lemma line_D05A : line 0xD05A#16 = some ⟨.STA, .zeroPage 0x44#8, .plain⟩ := by decide
@[simp] lemma line_D05C : line 0xD05C#16 = some ⟨.INC, .zeroPage 0xF0#8, .plain⟩ := by decide
@[simp] lemma line_D05E : line 0xD05E#16 = some ⟨.BNE, .relative 0x02#8, .plain⟩ := by decide
@[simp] lemma line_D060 : line 0xD060#16 = some ⟨.INC, .zeroPage 0xF1#8, .plain⟩ := by decide
@[simp] lemma line_D062 : line 0xD062#16 = some ⟨.JMP, .absolute 0xD041#16, .plain⟩ := by decide

-- SAVE, the checksum
@[simp] lemma line_D065 : line 0xD065#16 = some ⟨.LDA, .zeroPage 0x44#8, .plain⟩ := by decide
@[simp] lemma line_D067 : line 0xD067#16 = some ⟨.STA, .absolute 0x8004#16, .seen⟩ := by decide
@[simp] lemma line_D06A : line 0xD06A#16 = some ⟨.LDA, .immediate 0x00#8, .plain⟩ := by decide
@[simp] lemma line_D06C : line 0xD06C#16 = some ⟨.STA, .absolute 0x8003#16, .seen⟩ := by decide
@[simp] lemma line_D06F : line 0xD06F#16 = some ⟨.RTS, .implied, .stack⟩ := by decide

-- SAVE without a tape
@[simp] lemma line_D070 : line 0xD070#16 = some ⟨.LDA, .immediate 0x3F#8, .plain⟩ := by decide
@[simp] lemma line_D072 : line 0xD072#16 = some ⟨.JSR, .absolute 0xC100#16, .stack⟩ := by decide
@[simp] lemma line_D075 : line 0xD075#16 = some ⟨.LDA, .immediate 0x0D#8, .plain⟩ := by decide
@[simp] lemma line_D077 : line 0xD077#16 = some ⟨.JSR, .absolute 0xC100#16, .stack⟩ := by decide
@[simp] lemma line_D07A : line 0xD07A#16 = some ⟨.LDA, .immediate 0x0A#8, .plain⟩ := by decide
@[simp] lemma line_D07C : line 0xD07C#16 = some ⟨.JSR, .absolute 0xC100#16, .stack⟩ := by decide
@[simp] lemma line_D07F : line 0xD07F#16 = some ⟨.RTS, .implied, .stack⟩ := by decide

-- LOAD
@[simp] lemma line_D100 : line 0xD100#16 = some ⟨.LDA, .absolute 0x8002#16, .seen⟩ := by decide
@[simp] lemma line_D103 : line 0xD103#16 = some ⟨.AND, .immediate 0x01#8, .plain⟩ := by decide
@[simp] lemma line_D105 : line 0xD105#16 = some ⟨.BNE, .relative 0x03#8, .plain⟩ := by decide
@[simp] lemma line_D107 : line 0xD107#16 = some ⟨.JMP, .absolute 0xD15E#16, .plain⟩ := by decide
@[simp] lemma line_D10A : line 0xD10A#16 = some ⟨.LDA, .immediate 0x01#8, .plain⟩ := by decide
@[simp] lemma line_D10C : line 0xD10C#16 = some ⟨.STA, .absolute 0x8003#16, .seen⟩ := by decide
@[simp] lemma line_D10F : line 0xD10F#16 = some ⟨.JSR, .absolute 0xD16E#16, .stack⟩ := by decide
@[simp] lemma line_D112 : line 0xD112#16 = some ⟨.BCS, .relative 0x3C#8, .plain⟩ := by decide
@[simp] lemma line_D114 : line 0xD114#16 = some ⟨.STA, .zeroPage 0x42#8, .plain⟩ := by decide
@[simp] lemma line_D116 : line 0xD116#16 = some ⟨.JSR, .absolute 0xD16E#16, .stack⟩ := by decide
@[simp] lemma line_D119 : line 0xD119#16 = some ⟨.BCS, .relative 0x35#8, .plain⟩ := by decide
@[simp] lemma line_D11B : line 0xD11B#16 = some ⟨.STA, .zeroPage 0x43#8, .plain⟩ := by decide
@[simp] lemma line_D11D : line 0xD11D#16 = some ⟨.LDA, .immediate 0x00#8, .plain⟩ := by decide
@[simp] lemma line_D11F : line 0xD11F#16 = some ⟨.STA, .zeroPage 0x44#8, .plain⟩ := by decide

-- LOAD, the data
@[simp] lemma line_D121 : line 0xD121#16 = some ⟨.LDA, .zeroPage 0x42#8, .plain⟩ := by decide
@[simp] lemma line_D123 : line 0xD123#16 = some ⟨.ORA, .zeroPage 0x43#8, .plain⟩ := by decide
@[simp] lemma line_D125 : line 0xD125#16 = some ⟨.BEQ, .relative 0x20#8, .plain⟩ := by decide
@[simp] lemma line_D127 : line 0xD127#16 = some ⟨.JSR, .absolute 0xD16E#16, .stack⟩ := by decide
@[simp] lemma line_D12A : line 0xD12A#16 = some ⟨.BCS, .relative 0x24#8, .plain⟩ := by decide
@[simp] lemma line_D12C : line 0xD12C#16 = some ⟨.PHA, .implied, .stack⟩ := by decide
@[simp] lemma line_D12D : line 0xD12D#16 = some ⟨.EOR, .zeroPage 0x44#8, .plain⟩ := by decide
@[simp] lemma line_D12F : line 0xD12F#16 = some ⟨.STA, .zeroPage 0x44#8, .plain⟩ := by decide
@[simp] lemma line_D131 : line 0xD131#16 = some ⟨.PLA, .implied, .stack⟩ := by decide
@[simp] lemma line_D132 : line 0xD132#16 = some ⟨.LDY, .immediate 0x00#8, .plain⟩ := by decide
@[simp] lemma line_D134 : line 0xD134#16 = some ⟨.STA, .indirectY 0xF0#8, .seen⟩ := by decide
@[simp] lemma line_D136 : line 0xD136#16 = some ⟨.INC, .zeroPage 0xF0#8, .plain⟩ := by decide
@[simp] lemma line_D138 : line 0xD138#16 = some ⟨.BNE, .relative 0x02#8, .plain⟩ := by decide
@[simp] lemma line_D13A : line 0xD13A#16 = some ⟨.INC, .zeroPage 0xF1#8, .plain⟩ := by decide
@[simp] lemma line_D13C : line 0xD13C#16 = some ⟨.LDA, .zeroPage 0x42#8, .plain⟩ := by decide
@[simp] lemma line_D13E : line 0xD13E#16 = some ⟨.BNE, .relative 0x02#8, .plain⟩ := by decide
@[simp] lemma line_D140 : line 0xD140#16 = some ⟨.DEC, .zeroPage 0x43#8, .plain⟩ := by decide
@[simp] lemma line_D142 : line 0xD142#16 = some ⟨.DEC, .zeroPage 0x42#8, .plain⟩ := by decide
@[simp] lemma line_D144 : line 0xD144#16 = some ⟨.JMP, .absolute 0xD121#16, .plain⟩ := by decide

-- LOAD, the checksum
@[simp] lemma line_D147 : line 0xD147#16 = some ⟨.JSR, .absolute 0xD16E#16, .stack⟩ := by decide
@[simp] lemma line_D14A : line 0xD14A#16 = some ⟨.BCS, .relative 0x04#8, .plain⟩ := by decide
@[simp] lemma line_D14C : line 0xD14C#16 = some ⟨.CMP, .zeroPage 0x44#8, .plain⟩ := by decide
@[simp] lemma line_D14E : line 0xD14E#16 = some ⟨.BEQ, .relative 0x08#8, .plain⟩ := by decide
@[simp] lemma line_D150 : line 0xD150#16 = some ⟨.LDA, .immediate 0x00#8, .plain⟩ := by decide
@[simp] lemma line_D152 : line 0xD152#16 = some ⟨.STA, .absolute 0x8003#16, .seen⟩ := by decide
@[simp] lemma line_D155 : line 0xD155#16 = some ⟨.JMP, .absolute 0xD15E#16, .plain⟩ := by decide
@[simp] lemma line_D158 : line 0xD158#16 = some ⟨.LDA, .immediate 0x00#8, .plain⟩ := by decide
@[simp] lemma line_D15A : line 0xD15A#16 = some ⟨.STA, .absolute 0x8003#16, .seen⟩ := by decide
@[simp] lemma line_D15D : line 0xD15D#16 = some ⟨.RTS, .implied, .stack⟩ := by decide

-- LOAD at an error
@[simp] lemma line_D15E : line 0xD15E#16 = some ⟨.LDA, .immediate 0x3F#8, .plain⟩ := by decide
@[simp] lemma line_D160 : line 0xD160#16 = some ⟨.JSR, .absolute 0xC100#16, .stack⟩ := by decide
@[simp] lemma line_D163 : line 0xD163#16 = some ⟨.LDA, .immediate 0x0D#8, .plain⟩ := by decide
@[simp] lemma line_D165 : line 0xD165#16 = some ⟨.JSR, .absolute 0xC100#16, .stack⟩ := by decide
@[simp] lemma line_D168 : line 0xD168#16 = some ⟨.LDA, .immediate 0x0A#8, .plain⟩ := by decide
@[simp] lemma line_D16A : line 0xD16A#16 = some ⟨.JSR, .absolute 0xC100#16, .stack⟩ := by decide
@[simp] lemma line_D16D : line 0xD16D#16 = some ⟨.RTS, .implied, .stack⟩ := by decide

-- READ_TAPE_BYTE
@[simp] lemma line_D16E : line 0xD16E#16 = some ⟨.LDA, .absolute 0x8004#16, .plain⟩ := by decide
@[simp] lemma line_D171 : line 0xD171#16 = some ⟨.PHA, .implied, .stack⟩ := by decide
@[simp] lemma line_D172 : line 0xD172#16 = some ⟨.LDA, .absolute 0x8002#16, .plain⟩ := by decide
@[simp] lemma line_D175 : line 0xD175#16 = some ⟨.AND, .immediate 0x08#8, .plain⟩ := by decide
@[simp] lemma line_D177 : line 0xD177#16 = some ⟨.BEQ, .relative 0x03#8, .plain⟩ := by decide
@[simp] lemma line_D179 : line 0xD179#16 = some ⟨.PLA, .implied, .stack⟩ := by decide
@[simp] lemma line_D17A : line 0xD17A#16 = some ⟨.SEC, .implied, .plain⟩ := by decide
@[simp] lemma line_D17B : line 0xD17B#16 = some ⟨.RTS, .implied, .stack⟩ := by decide
@[simp] lemma line_D17C : line 0xD17C#16 = some ⟨.PLA, .implied, .stack⟩ := by decide
@[simp] lemma line_D17D : line 0xD17D#16 = some ⟨.CLC, .implied, .plain⟩ := by decide
@[simp] lemma line_D17E : line 0xD17E#16 = some ⟨.RTS, .implied, .stack⟩ := by decide

-- REWIND
@[simp] lemma line_D200 : line 0xD200#16 = some ⟨.LDA, .absolute 0x8002#16, .seen⟩ := by decide
@[simp] lemma line_D203 : line 0xD203#16 = some ⟨.AND, .immediate 0x01#8, .plain⟩ := by decide
@[simp] lemma line_D205 : line 0xD205#16 = some ⟨.BNE, .relative 0x03#8, .plain⟩ := by decide
@[simp] lemma line_D207 : line 0xD207#16 = some ⟨.JMP, .absolute 0xD210#16, .plain⟩ := by decide
@[simp] lemma line_D20A : line 0xD20A#16 = some ⟨.LDA, .immediate 0x02#8, .plain⟩ := by decide
@[simp] lemma line_D20C : line 0xD20C#16 = some ⟨.STA, .absolute 0x8003#16, .seen⟩ := by decide
@[simp] lemma line_D20F : line 0xD20F#16 = some ⟨.RTS, .implied, .stack⟩ := by decide

-- REWIND without a tape
@[simp] lemma line_D210 : line 0xD210#16 = some ⟨.LDA, .immediate 0x3F#8, .plain⟩ := by decide
@[simp] lemma line_D212 : line 0xD212#16 = some ⟨.JSR, .absolute 0xC100#16, .stack⟩ := by decide
@[simp] lemma line_D215 : line 0xD215#16 = some ⟨.LDA, .immediate 0x0D#8, .plain⟩ := by decide
@[simp] lemma line_D217 : line 0xD217#16 = some ⟨.JSR, .absolute 0xC100#16, .stack⟩ := by decide
@[simp] lemma line_D21A : line 0xD21A#16 = some ⟨.LDA, .immediate 0x0A#8, .plain⟩ := by decide
@[simp] lemma line_D21C : line 0xD21C#16 = some ⟨.JSR, .absolute 0xC100#16, .stack⟩ := by decide
@[simp] lemma line_D21F : line 0xD21F#16 = some ⟨.RTS, .implied, .stack⟩ := by decide

open Machine (branchTarget)

@[simp] lemma getChar_targets :
    branchTarget 0xC007#16 0xF9#8 = 0xC000#16 := by
  decide

@[simp] lemma printNibble_targets :
    branchTarget 0xC224#16 0x05#8 = 0xC229#16 := by
  decide

@[simp] lemma printString_targets :
    branchTarget 0xC306#16 0x07#8 = 0xC30D#16 := by
  decide

@[simp] lemma readLine_targets :
    branchTarget 0xC409#16 0x2C#8 = 0xC435#16 ∧
    branchTarget 0xC40D#16 0x11#8 = 0xC41E#16 ∧
    branchTarget 0xC411#16 0x0D#8 = 0xC41E#16 ∧
    branchTarget 0xC415#16 0xED#8 = 0xC402#16 ∧
    branchTarget 0xC422#16 0xE0#8 = 0xC402#16 := by
  decide

@[simp] lemma parseAddr_targets :
    branchTarget 0xC50E#16 0x24#8 = 0xC532#16 ∧
    branchTarget 0xC515#16 0x1D#8 = 0xC532#16 ∧
    branchTarget 0xC536#16 0x02#8 = 0xC538#16 := by
  decide

@[simp] lemma parseByte_targets :
    branchTarget 0xC60C#16 0x22#8 = 0xC62E#16 ∧
    branchTarget 0xC612#16 0x1C#8 = 0xC62E#16 ∧
    branchTarget 0xC619#16 0x15#8 = 0xC62E#16 ∧
    branchTarget 0xC632#16 0x02#8 = 0xC634#16 := by
  decide

@[simp] lemma hexVal_targets :
    branchTarget 0xC704#16 0x23#8 = 0xC727#16 ∧
    branchTarget 0xC708#16 0x05#8 = 0xC70D#16 ∧
    branchTarget 0xC711#16 0x16#8 = 0xC727#16 ∧
    branchTarget 0xC715#16 0x05#8 = 0xC71A#16 ∧
    branchTarget 0xC71E#16 0x09#8 = 0xC727#16 ∧
    branchTarget 0xC722#16 0x05#8 = 0xC727#16 := by
  decide

@[simp] lemma dispatch_targets :
    branchTarget 0xC806#16 0x03#8 = 0xC809#16 ∧
    branchTarget 0xC811#16 0x0B#8 = 0xC81C#16 ∧
    branchTarget 0xC815#16 0x4D#8 = 0xC862#16 ∧
    branchTarget 0xC819#16 0x4E#8 = 0xC867#16 ∧
    branchTarget 0xC82B#16 0x5D#8 = 0xC888#16 ∧
    branchTarget 0xC849#16 0x03#8 = 0xC84C#16 ∧
    branchTarget 0xC854#16 0x34#8 = 0xC888#16 ∧
    branchTarget 0xC859#16 0x2F#8 = 0xC888#16 ∧
    branchTarget 0xC85F#16 0x29#8 = 0xC888#16 ∧
    branchTarget 0xC86E#16 0x1A#8 = 0xC888#16 ∧
    branchTarget 0xC874#16 0x0B#8 = 0xC87F#16 ∧
    branchTarget 0xC878#16 0x0A#8 = 0xC882#16 ∧
    branchTarget 0xC87C#16 0x09#8 = 0xC885#16 := by
  decide

@[simp] lemma list_targets :
    branchTarget 0xCB0A#16 0x0A#8 = 0xCB14#16 ∧
    branchTarget 0xCB0C#16 0x4B#8 = 0xCB57#16 ∧
    branchTarget 0xCB12#16 0x02#8 = 0xCB14#16 ∧
    branchTarget 0xCB14#16 0x43#8 = 0xCB57#16 ∧
    branchTarget 0xCB18#16 0x14#8 = 0xCB2C#16 ∧
    branchTarget 0xCB3C#16 0x02#8 = 0xCB3E#16 ∧
    branchTarget 0xCB46#16 0xBE#8 = 0xCB04#16 ∧
    branchTarget 0xCB5B#16 0x0A#8 = 0xCB65#16 := by
  decide

@[simp] lemma poke_targets :
    branchTarget 0xCC06#16 0x21#8 = 0xCC27#16 ∧
    branchTarget 0xCC0E#16 0x05#8 = 0xCC13#16 ∧
    branchTarget 0xCC18#16 0x0F#8 = 0xCC27#16 ∧
    branchTarget 0xCC22#16 0x02#8 = 0xCC24#16 := by
  decide

@[simp] lemma mainLoop_targets :
    branchTarget 0xCF28#16 0x06#8 = 0xCF2E#16 := by
  decide

@[simp] lemma save_targets :
    branchTarget 0xD007#16 0x03#8 = 0xD00A#16 ∧
    branchTarget 0xD010#16 0x08#8 = 0xD018#16 ∧
    branchTarget 0xD012#16 0x09#8 = 0xD01B#16 ∧
    branchTarget 0xD018#16 0x03#8 = 0xD01B#16 ∧
    branchTarget 0xD031#16 0x02#8 = 0xD033#16 ∧
    branchTarget 0xD047#16 0x0A#8 = 0xD051#16 ∧
    branchTarget 0xD049#16 0x1C#8 = 0xD065#16 ∧
    branchTarget 0xD04F#16 0x02#8 = 0xD051#16 ∧
    branchTarget 0xD051#16 0x14#8 = 0xD065#16 ∧
    branchTarget 0xD060#16 0x02#8 = 0xD062#16 := by
  decide

@[simp] lemma load_targets :
    branchTarget 0xD107#16 0x03#8 = 0xD10A#16 ∧
    branchTarget 0xD114#16 0x3C#8 = 0xD150#16 ∧
    branchTarget 0xD11B#16 0x35#8 = 0xD150#16 ∧
    branchTarget 0xD127#16 0x20#8 = 0xD147#16 ∧
    branchTarget 0xD12C#16 0x24#8 = 0xD150#16 ∧
    branchTarget 0xD13A#16 0x02#8 = 0xD13C#16 ∧
    branchTarget 0xD140#16 0x02#8 = 0xD142#16 ∧
    branchTarget 0xD14C#16 0x04#8 = 0xD150#16 ∧
    branchTarget 0xD150#16 0x08#8 = 0xD158#16 ∧
    branchTarget 0xD179#16 0x03#8 = 0xD17C#16 := by
  decide

@[simp] lemma rewind_targets :
    branchTarget 0xD207#16 0x03#8 = 0xD20A#16 := by
  decide

end Sys6
