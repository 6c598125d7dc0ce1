import Chip8.Main
import Chip8.Proofs.Operands
import Chip8.Proofs.RegisterFile
import Chip8.Proofs.Execution
import Chip8.Proofs.FaultAtomicity
import Chip8.Proofs.Operation
import Chip8.Proofs.WellFormed
import Chip8.Proofs.CheckedArithmetic
import Chip8.Proofs.CheckedExecution
import Chip8.Proofs.Reachable
import Chip8.Proofs.ToneReplay
import Chip8.Proofs.DisplayMirror
import Chip8.Proofs.TerminalPicture
import Chip8.Proofs.Restart
import Chip8.Proofs.Timers
import Chip8.Proofs.TimerIndependence
import Chip8.Proofs.Parked
import Chip8.Proofs.Encoding
import Chip8.Proofs.StepFaults
import Chip8.Proofs.RandomWords
import Chip8.Proofs.SessionHistory
import Chip8.Proofs.Phases
import Chip8.Proofs.RejectedLoad
import Chip8.Proofs.FreshStart
import Chip8.Proofs.CallReturn
import Chip8.Proofs.ToneGrammar
import Chip8.Proofs.Drawing
import Chip8.Proofs.Rendering
import Chip8.Proofs.Reading
import Chip8.Proofs.ControlFlow
import Chip8.Proofs.Compositing
import Chip8.Proofs.Arithmetic
import Chip8.Proofs.KeyHold
import Chip8.Proofs.Effects
import Chip8.Proofs.RegisterDump
import Chip8.Proofs.TimerReadings
import Chip8.Proofs.Sweeping
import Chip8.Proofs.Numerals
import Chip8.Proofs.Disassembly
import Chip8.Proofs.RunLog
import Chip8.Proofs.Redrawing
import Chip8.Proofs.FramedPicture
import Chip8.Proofs.AddressWidth
import Chip8.Proofs.SharedKeys
import Chip8.Proofs.ByteStore
