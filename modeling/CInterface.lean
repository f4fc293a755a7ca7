import CInterface.Artifact
import CInterface.CommandLine.Run
import CInterface.Generation
import CInterface.Interface.Reader
import CInterface.Main
import CInterface.Settings.Decode
import CInterface.Toml.Document
import CInterface.Workspace.Access
import CInterface.Proofs.CarriageReturns
import CInterface.Proofs.GenerationEffects
import CInterface.Proofs.HeaderReading
import CInterface.Proofs.LineInsertion
import CInterface.Proofs.RunOutcome
import CInterface.Proofs.IndependentGenerations
import CInterface.Proofs.OuterParentheses
import CInterface.Proofs.ParameterNames
import CInterface.Proofs.TypeMapping
import CInterface.Proofs.AliasOrder
import CInterface.Proofs.ParameterEntries
import CInterface.Proofs.Widening
import CInterface.Proofs.SpelledPointers
import CInterface.Proofs.ExportedTypes
import CInterface.Proofs.KeywordMatches
import CInterface.Proofs.JsonGrammar
import CInterface.Proofs.LineEndings
import CInterface.Proofs.LineSelection
import CInterface.Proofs.SettingsFields
import CInterface.Proofs.FinalLineFeeds
