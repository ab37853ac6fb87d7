import PgAdapt.ArrayBinary
import PgAdapt.ArrayText
import PgAdapt.Bytes
import PgAdapt.Catalogue.Install
import PgAdapt.Codec
import PgAdapt.Config.Read
import PgAdapt.Context
import PgAdapt.Dump
import PgAdapt.Error
import PgAdapt.Floating
import PgAdapt.Load
import PgAdapt.Oid
import PgAdapt.Proofs.Action
import PgAdapt.Proofs.ArrayBinary.Amplification
import PgAdapt.Proofs.ArrayBinary.Box
import PgAdapt.Proofs.ArrayBinary.Codec
import PgAdapt.Proofs.ArrayBinary.Dumped
import PgAdapt.Proofs.ArrayBinary.ElementType
import PgAdapt.Proofs.ArrayBinary.Load
import PgAdapt.Proofs.ArrayBinary.Message
import PgAdapt.Proofs.ArrayText.Delimiters
import PgAdapt.Proofs.ArrayText.Grammar
import PgAdapt.Proofs.ArrayText.Levels
import PgAdapt.Proofs.ArrayText.Loose
import PgAdapt.Proofs.ArrayText.Scan
import PgAdapt.Proofs.Arrays.FirstError
import PgAdapt.Proofs.Arrays.InferredType
import PgAdapt.Proofs.Cache.History
import PgAdapt.Proofs.Cache.LikeNew
import PgAdapt.Proofs.Cache.Lookup
import PgAdapt.Proofs.Catalogue.Agreement
import PgAdapt.Proofs.Catalogue.AllArrays
import PgAdapt.Proofs.Catalogue.Builtin
import PgAdapt.Proofs.Catalogue.Overlay
import PgAdapt.Proofs.Catalogue.Recipes
import PgAdapt.Proofs.Decimal.Agreement
import PgAdapt.Proofs.Decimal.Denoted
import PgAdapt.Proofs.Decimal.Written
import PgAdapt.Proofs.Element
import PgAdapt.Proofs.Escape
import PgAdapt.Proofs.Except
import PgAdapt.Proofs.Quote
import PgAdapt.Proofs.Registry.History
import PgAdapt.Proofs.RoundTrip.Binary
import PgAdapt.Proofs.RoundTrip.Builtin
import PgAdapt.Proofs.RoundTrip.Scalar
import PgAdapt.Proofs.RoundTrip.Text
import PgAdapt.Proofs.Scalar.Alike
import PgAdapt.Proofs.Scalar.Bytea
import PgAdapt.Proofs.Scalar.Codecs
import PgAdapt.Proofs.Session.Alone
import PgAdapt.Proofs.Session.Caches
import PgAdapt.Proofs.Session.Lookup
import PgAdapt.Proofs.Session.Running
import PgAdapt.Proofs.Session.World
import PgAdapt.Proofs.Text.Utf8
import PgAdapt.Quote
import PgAdapt.Registry
import PgAdapt.Scalar.Number
import PgAdapt.Scalar.Singleton
import PgAdapt.Scalar.Text
import PgAdapt.Session
import PgAdapt.Text.Capital
import PgAdapt.Text.Quoted
import PgAdapt.Text.Utf8
import PgAdapt.Toml.Document
import PgAdapt.Toml.Number
import PgAdapt.Toml.Text
import PgAdapt.Transformer
import PgAdapt.Value
