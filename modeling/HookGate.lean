import HookGate.Main
import HookGate.Sandbox.Programs
import HookGate.Proofs.Pattern.Preference
import HookGate.Proofs.Pattern.Longest
import HookGate.Proofs.Text.Ring
import HookGate.Proofs.Hook.Blocking
import HookGate.Proofs.Pattern.Substitution
import HookGate.Proofs.Audit.Shapes
import HookGate.Proofs.Audit.Credentials
import HookGate.Proofs.Audit.Reason
import HookGate.Proofs.Json.Strings
import HookGate.Proofs.Audit.Keys
import HookGate.Proofs.Audit.Leaks
import HookGate.Proofs.Audit.Summary
import HookGate.Proofs.Audit.Pieces
import HookGate.Proofs.Audit.Hidden
import HookGate.Proofs.Audit.Overlaps
import HookGate.Proofs.Text.Words
import HookGate.Proofs.Text.LowerCase
import HookGate.Proofs.Activation.Recording
import HookGate.Proofs.Activation.Evaluation
import HookGate.Proofs.Activation.Advice
import HookGate.Proofs.Activation.Literal
import HookGate.Proofs.Hook.Matched
import HookGate.Proofs.Hook.Levels
import HookGate.Proofs.Rules.Loading
import HookGate.Proofs.Hook.Shape
import HookGate.Proofs.Hook.Sequence
import HookGate.Proofs.Gate.Consultation
import HookGate.Proofs.Hook.DryRun
import HookGate.Proofs.Hook.Disabled
import HookGate.Proofs.Hook.Warnings
import HookGate.Proofs.Audit.Clean
import HookGate.Proofs.CommandLine.Arguments
import HookGate.Proofs.Sandbox.Writing
import HookGate.Proofs.RuleOutput.Handover
import HookGate.Proofs.Hook.Delivery
import HookGate.Proofs.Audit.Length
import HookGate.Proofs.Hook.Verdict
import HookGate.Proofs.Activation.Reading
import HookGate.Proofs.Gate.Recheck
import HookGate.Proofs.Gate.Locate
import HookGate.Proofs.Pattern.Places
import HookGate.Proofs.Pattern.Paths
import HookGate.Proofs.Pattern.Assembly
import HookGate.Proofs.Text.AsciiCase
import HookGate.Proofs.Pattern.Caseless
import HookGate.Proofs.Pattern.Reading
import HookGate.Proofs.Gate.Guarded
import HookGate.Proofs.Gate.Objection
import HookGate.Proofs.Sandbox.Removal
import HookGate.Proofs.RuleOutput.Staging
import HookGate.Proofs.Activation.Case
import HookGate.Proofs.CommandLine.Spellings
import HookGate.Proofs.Hook.Blocks
import HookGate.Proofs.Settings.Document
import HookGate.Proofs.Json.Context
import HookGate.Proofs.Json.Insertion
import HookGate.Proofs.Rules.Unknown
import HookGate.Proofs.RuleOutput.Report
import HookGate.Proofs.Text.Replacement
import HookGate.Proofs.Settings.Environment
import HookGate.Proofs.Text.Blanks
import HookGate.Proofs.Rules.WellFormed
