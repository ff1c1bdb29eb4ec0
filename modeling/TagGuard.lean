import TagGuard.Catalog.Basic
import TagGuard.Catalog.Session
import TagGuard.Document.Basic
import TagGuard.Document.Catalog
import TagGuard.Document.Decode
import TagGuard.Document.Errors
import TagGuard.Document.Formula
import TagGuard.Document.Tags
import TagGuard.Extensions.Except
import TagGuard.Formula.Basic
import TagGuard.Formula.Notation
import TagGuard.Formula.Parse
import TagGuard.Formula.Reader
import TagGuard.Formula.Words
import TagGuard.Grammar.Alphabet
import TagGuard.Grammar.Cursor
import TagGuard.Grammar.Derivation
import TagGuard.Grammar.Token
import TagGuard.Limits
import TagGuard.Log
import TagGuard.Misuse
import TagGuard.Proofs.Catalog.AuditTrail
import TagGuard.Proofs.Catalog.Bindings
import TagGuard.Proofs.Catalog.Enabled
import TagGuard.Proofs.Catalog.Granting
import TagGuard.Proofs.Catalog.MalformedTags
import TagGuard.Proofs.Catalog.OneLine
import TagGuard.Proofs.Catalog.Session
import TagGuard.Proofs.Catalog.Storage
import TagGuard.Proofs.Document.Formula
import TagGuard.Proofs.Document.Lossless
import TagGuard.Proofs.Formula.Composition
import TagGuard.Proofs.Formula.ErrorPosition
import TagGuard.Proofs.Formula.IgnoringCase
import TagGuard.Proofs.Formula.Letters
import TagGuard.Proofs.Formula.MentionedTags
import TagGuard.Proofs.Formula.NestingLimit
import TagGuard.Proofs.Formula.Notation
import TagGuard.Proofs.Formula.Parse
import TagGuard.Proofs.Formula.Polarity
import TagGuard.Proofs.Formula.Reader.Effect
import TagGuard.Proofs.Formula.Reader.Place
import TagGuard.Proofs.Formula.Reader.Progress
import TagGuard.Proofs.Formula.Reader.Run
import TagGuard.Proofs.Formula.Reading
import TagGuard.Proofs.Formula.Rendering
import TagGuard.Proofs.Formula.Rereading
import TagGuard.Proofs.Formula.Tokens
import TagGuard.Proofs.Formula.Traversal
import TagGuard.Proofs.Grammar.Derivation
import TagGuard.Proofs.Grammar.Dichotomy
import TagGuard.Proofs.Grammar.Relettering
import TagGuard.Proofs.Grammar.Respelling
import TagGuard.Proofs.Grammar.Stop
import TagGuard.Proofs.Grammar.Token
import TagGuard.Proofs.Refusal.Message
import TagGuard.Proofs.Rule.Identity
import TagGuard.Proofs.Rule.Storage
import TagGuard.Proofs.Tags.Delimited
import TagGuard.Proofs.Text.ByteOrder
import TagGuard.Proofs.Text.Lowercase
import TagGuard.Refusal
import TagGuard.Rule
import TagGuard.SyntaxError
import TagGuard.Tags
import TagGuard.Text.Lowercase
import TagGuard.Text.Lowercase.Table
import TagGuard.Text.Quoted
import TagGuard.Text.Quoted.Table
import TagGuard.Text.WhiteSpace
