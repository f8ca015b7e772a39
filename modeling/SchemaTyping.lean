import SchemaTyping.Command.Run
import SchemaTyping.Decode.FromText
import SchemaTyping.Emission.Document
import SchemaTyping.Main
import SchemaTyping.Query.Run
import SchemaTyping.Proofs.Emission.Script
import SchemaTyping.Proofs.Emission.ChildrenFirst
import SchemaTyping.Proofs.Emission.PostOrder
import SchemaTyping.Proofs.Emission.References
import SchemaTyping.Proofs.Emission.Strict
import SchemaTyping.Proofs.Emission.Leaves
import SchemaTyping.Proofs.Emission.Accounts
import SchemaTyping.Proofs.Emission.DependentsFirst
import SchemaTyping.Proofs.Emission.TopLevelNames
import SchemaTyping.Proofs.Emission.KeywordCore
import SchemaTyping.Proofs.Emission.Resolution
import SchemaTyping.Proofs.Json.Reordering
import SchemaTyping.Proofs.Schema.Reordering
import SchemaTyping.Proofs.Emission.Reordering
import SchemaTyping.Proofs.Typing.TypeReading
import SchemaTyping.Proofs.Typing.ModuleText
import SchemaTyping.Proofs.Json.NumeralReading
import SchemaTyping.Proofs.Json.StringBody
import SchemaTyping.Proofs.Json.RepeatedKeys
import SchemaTyping.Proofs.Json.Spelling
import SchemaTyping.Proofs.Json.ValueReading
import SchemaTyping.Proofs.Json.Derivation
import SchemaTyping.Proofs.Decode.AnyText
import SchemaTyping.Proofs.Emission.DocumentText
import SchemaTyping.Proofs.Emission.Failures
import SchemaTyping.Proofs.Emission.RootName
import SchemaTyping.Proofs.Text.OneLine
import SchemaTyping.Proofs.Typing.LiteralText
import SchemaTyping.Proofs.Emission.OneLine
import SchemaTyping.Proofs.Typing.LiteralReading
import SchemaTyping.Proofs.Emission.Degradation
import SchemaTyping.Proofs.Emission.Retry
import SchemaTyping.Proofs.Emission.RootAlias
import SchemaTyping.Proofs.Decode.Skip
import SchemaTyping.Proofs.Decode.Agreement
import SchemaTyping.Proofs.Decode.TextAndValue
import SchemaTyping.Proofs.Command.FilePath
import SchemaTyping.Proofs.Command.FileTree
import SchemaTyping.Proofs.Command.Storing
import SchemaTyping.Proofs.Command.Arguments
import SchemaTyping.Proofs.Command.Run
import SchemaTyping.Proofs.Command.Selection
import SchemaTyping.Proofs.Emission.Fields
import SchemaTyping.Proofs.Text.Capitalized
import SchemaTyping.Proofs.Text.TitleCase
import SchemaTyping.Proofs.Decode.Surplus
import SchemaTyping.Proofs.Decode.FaultPlace
