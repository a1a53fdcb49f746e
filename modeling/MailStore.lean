import MailStore.Bytes
import MailStore.Failure
import MailStore.Text.Utf8
import MailStore.Text.Utf16
import MailStore.Text.Printable
import MailStore.Text.Quote
import MailStore.Time.Instant
import MailStore.Time.FileTime
import MailStore.Guid
import MailStore.Prop.Tag
import MailStore.Prop.Value
import MailStore.Prop.Codec
import MailStore.Prop.Named
import MailStore.Prop.Column
import MailStore.Number.IntLiteral
import MailStore.Number.Binary64
import MailStore.Json.Basic
import MailStore.Json.Parse
import MailStore.Text.Fold
import MailStore.Folder.Special
import MailStore.Console.Answer
import MailStore.Console.Request
import MailStore.Console.Codec
import MailStore.Prop.NameCache
import MailStore.Prop.Stream
import MailStore.Prop.Fetch
import MailStore.Tally
import MailStore.Console.Scripted
import MailStore.Console.NameScript
import MailStore.Console.PropertyScript
import MailStore.Table.Read
import MailStore.Entity.Basic
import MailStore.Entity.Columns
import MailStore.Entity.Collection
import MailStore.Entity.Store
import MailStore.Entity.Folder
import MailStore.Entity.Item
import MailStore.Entity.Query
import MailStore.Tool.Args
import MailStore.Tool.Shape
import MailStore.Tool.Registry
import MailStore.Mcp.Server
import MailStore.Console.World
import MailStore.Console.EntityScript
import MailStore.Sql.Value
import MailStore.Sql.Syntax
import MailStore.Sql.Lex
import MailStore.Sql.Parse
import MailStore.Sql.Schema
import MailStore.Sql.Function
import MailStore.Sql.Eval
import MailStore.Sql.Write
import MailStore.Sql.Check
import MailStore.Sql.Define
import MailStore.Sql.Session
import MailStore.Db.Schema
import MailStore.Db.Scan
import MailStore.Text.Collation
import MailStore.Db.Service
import MailStore.Db.Writer
import MailStore.Db.Reader
import MailStore.Hash.Sha1
import MailStore.Text.Case
import MailStore.Mail.Message
import MailStore.Mail.Source
import MailStore.Mail.Import
import MailStore.Yaml.Scanner
import MailStore.Yaml.Parser
import MailStore.Yaml.Scalar
import MailStore.Yaml.Node
import MailStore.Settings.Basic
import MailStore.Settings.Yaml
import MailStore.Settings.Load
import MailStore.Console.SettingsScript
import MailStore.Time.Relative
import MailStore.Net.ListenAddress
import MailStore.Cli.Command
import MailStore.Cli.Program
import MailStore.Console.SqlScript
import MailStore.Console.Dispatch
import MailStore.Main
import MailStore.Proofs.Returns
import MailStore.Proofs.NameCache
import MailStore.Proofs.Invalidation
import MailStore.Proofs.Ends
import MailStore.Proofs.Shape
import MailStore.Proofs.Identity
import MailStore.Proofs.Advance
import MailStore.Proofs.LiveAnswers
import MailStore.Proofs.Requests
import MailStore.Proofs.WorldFrame
import MailStore.Proofs.OneLiveInstance
import MailStore.Proofs.LazyCollection
import MailStore.Proofs.Closing
import MailStore.Proofs.SessionCollections
import MailStore.Proofs.Frame
import MailStore.Proofs.Metered
import MailStore.Proofs.StreamRelease
import MailStore.Proofs.SqlRead
import MailStore.Proofs.InlineLimit
import MailStore.Proofs.Traced
import MailStore.Proofs.NameBatch
import MailStore.Proofs.ColumnFetch
import MailStore.Proofs.Conversations
import MailStore.Proofs.JsonStream
import MailStore.Proofs.Serving
import MailStore.Proofs.TableRead
import MailStore.Proofs.FileTime
import MailStore.Proofs.TextCodec
import MailStore.Proofs.ValueCodec
import MailStore.Proofs.StreamValue
import MailStore.Proofs.SpecialFolders
import MailStore.Proofs.NameOrder
import MailStore.Proofs.StoreOpening
import MailStore.Proofs.DecodeLaw
import MailStore.Proofs.StringCoercion
import MailStore.Proofs.ConversationTopic
import MailStore.Proofs.NumericArgs
import MailStore.Proofs.WideReading
import MailStore.Proofs.ReadFlags
import MailStore.Proofs.LookupWindow
