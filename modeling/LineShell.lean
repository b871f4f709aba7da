import LineShell.Console.Transcript
import LineShell.Source.Edited
import LineShell.Program.Basic
import LineShell.Program
import LineShell.Main
import LineShell.Proofs.Assembled
import LineShell.Proofs.Delegation
import LineShell.Proofs.Recall
import LineShell.Proofs.Depth
import LineShell.Proofs.Recording
import LineShell.Proofs.Refusal
import LineShell.Proofs.Coupling
import LineShell.Proofs.Steering
import LineShell.Proofs.Ending
import LineShell.Proofs.Lasting
import LineShell.Proofs.Decoding
import LineShell.Proofs.Fitting
import LineShell.Proofs.Shape
import LineShell.Proofs.Results
import LineShell.Proofs.Echo
import LineShell.Proofs.Characters
import LineShell.Proofs.Segments
import LineShell.Proofs.Conservation
import LineShell.Proofs.Leaving
import LineShell.Proofs.Reports
import LineShell.Proofs.Readers
import LineShell.Proofs.Flushing
import LineShell.Proofs.Layouts
import LineShell.Proofs.Joining
import LineShell.Proofs.Numbering
