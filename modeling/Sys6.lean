import Sys6.Memory.Attach
import Sys6.Monitor.Cassette
import Sys6.Monitor.Discipline
import Sys6.Monitor.Restore
import Sys6.Monitor.CommandLine
import Sys6.Monitor.Independence
import Sys6.Monitor.LineEditor
import Sys6.Monitor.Numbers
import Sys6.Monitor.PokeLine
import Sys6.Monitor.PrintString
import Sys6.Monitor.Programs
import Sys6.Monitor.Prompts
import Sys6.Monitor.Recovery
import Sys6.Monitor.TapeSession
import Sys6.Monitor.Trampoline
import Sys6.Peripherals.TapeHead
import Sys6.Proofs.AluCorrect
import Sys6.Proofs.CarryChain
import Sys6.Proofs.ClockPhases
import Sys6.Proofs.Drivers
import Sys6.Proofs.FlagFrame
import Sys6.Proofs.RamMachine
import Sys6.Proofs.Progress
import Sys6.Proofs.Refinement
import Sys6.Proofs.ResetAnywhere
import Sys6.Proofs.StackLaw
import Sys6.Proofs.Timing
import Sys6.Proofs.Unreachable
import Sys6.Proofs.SilentFlags
import Sys6.System.Ledger
import Sys6.System.Terminal
import Sys6.Utils.ProgramLoader
import Sys6.Library.Limbs
