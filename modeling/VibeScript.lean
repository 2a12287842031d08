import VibeScript.Main
import VibeScript.Trace
import VibeScript.Proofs.Agreement
import VibeScript.Proofs.Continuation
import VibeScript.Proofs.Handlers
import VibeScript.Proofs.Table
import VibeScript.Proofs.Grammar
import VibeScript.Proofs.LongestMatch
import VibeScript.Proofs.Markup
import VibeScript.Proofs.Remarks
import VibeScript.Proofs.Locations
import VibeScript.Proofs.Frame
import VibeScript.Proofs.Unbound
import VibeScript.Proofs.Layout
import VibeScript.Proofs.Emptied
import VibeScript.Proofs.LineTokens
import VibeScript.Proofs.Resolution
import VibeScript.Proofs.Shout
import VibeScript.Proofs.ExitCode
import VibeScript.Proofs.ReadBack
import VibeScript.Proofs.ShownAlike
import VibeScript.Proofs.Calculation
import VibeScript.Proofs.Rounds
import VibeScript.Proofs.Bodies
import VibeScript.Proofs.Kinds
import VibeScript.Proofs.Neighbours
import VibeScript.Proofs.Unreached
import VibeScript.Proofs.Colour
