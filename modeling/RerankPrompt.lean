import RerankPrompt.Formatter
import RerankPrompt.Catalogue
import RerankPrompt.Session.Run
import RerankPrompt.CommandLine.Spelling
import RerankPrompt.Main
import RerankPrompt.Proofs.Model.Language
import RerankPrompt.Proofs.Prompt.Ambiguity
import RerankPrompt.Proofs.Prompt.Landmarks
import RerankPrompt.Proofs.Prompt.Reading
import RerankPrompt.Proofs.Prompt.Turns
import RerankPrompt.Proofs.CommandLine.Acceptance
import RerankPrompt.Proofs.CommandLine.Calls
import RerankPrompt.Proofs.CommandLine.Interleaving
import RerankPrompt.Proofs.CommandLine.LogOptions
import RerankPrompt.Proofs.CommandLine.Printing
import RerankPrompt.Proofs.CommandLine.Refinement
import RerankPrompt.Proofs.Session.Batch
import RerankPrompt.Proofs.Session.Classification
import RerankPrompt.Proofs.Session.Description
import RerankPrompt.Proofs.Session.Exchange
import RerankPrompt.Proofs.Session.Form
import RerankPrompt.Proofs.Session.GivenInstruction
import RerankPrompt.Proofs.Session.Omission
import RerankPrompt.Proofs.Session.Provenance
import RerankPrompt.Proofs.Session.Redaction
import RerankPrompt.Proofs.Session.Routing
import RerankPrompt.Proofs.Session.Threshold
import RerankPrompt.Proofs.Session.Unlogged
