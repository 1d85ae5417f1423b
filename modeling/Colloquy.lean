import Colloquy.Main
import Colloquy.Proofs.Invoker.Intervention
import Colloquy.Proofs.Invoker.Overrides
import Colloquy.Proofs.Invoker.Refusal
import Colloquy.Proofs.Invoker.Report
import Colloquy.Proofs.Settings.Guardrail
import Colloquy.Proofs.Stream.Agreement
import Colloquy.Proofs.Stream.Coercion
import Colloquy.Proofs.Stream.Interleaving
import Colloquy.Proofs.Stream.StopReason
import Colloquy.Proofs.Prompt.Script
import Colloquy.Proofs.Prompt.Formatting
import Colloquy.Proofs.Prompt.Alternation
import Colloquy.Proofs.Prompt.Replacement
import Colloquy.Proofs.StopText
import Colloquy.Proofs.Usage.Counting
import Colloquy.Proofs.Usage.Metrics
import Colloquy.Proofs.Request.Frame
import Colloquy.Proofs.Invoker.Streaming
import Colloquy.Proofs.Invoker.Conversation
import Colloquy.Proofs.Response.Content
import Colloquy.Proofs.Json.NormalForm
import Colloquy.Proofs.Settings.Expansion
import Colloquy.Proofs.Settings.CommentLines
import Colloquy.Proofs.Toml.Mark
import Colloquy.Proofs.Toml.Strings
import Colloquy.Proofs.Settings.Confinement
import Colloquy.Proofs.Invoker.CrossRegion
import Colloquy.Proofs.Settings.Acceptance
import Colloquy.Proofs.Settings.Hoisting
import Colloquy.Proofs.Stream.Fate
