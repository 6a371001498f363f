import QueryKit.Assembler
import QueryKit.Database
import QueryKit.Dialect.Registry
import QueryKit.Pool.Workbench
import QueryKit.Postgres.Session
import QueryKit.Record.Catalog
import QueryKit.Record.Declaration
import QueryKit.Writer.Statement
import QueryKit.Proofs.Identifier
import QueryKit.Proofs.Operand.Condition
import QueryKit.Proofs.Check
import QueryKit.Proofs.Operand.Statement
import QueryKit.Proofs.Reading.Grammar
import QueryKit.Proofs.Reading.Outline
import QueryKit.Proofs.Reading.Lexeme
import QueryKit.Proofs.Reading.Tree
import QueryKit.Proofs.Reading.Legible
import QueryKit.Proofs.Reading.Plain
import QueryKit.Proofs.Reading.Texts
import QueryKit.Proofs.Row
import QueryKit.Proofs.Binding
import QueryKit.Proofs.Record.Leaf
import QueryKit.Proofs.Record.Description
import QueryKit.Proofs.Data.Condition
import QueryKit.Proofs.Data.Statement
import QueryKit.Proofs.Dialect.Signs
import QueryKit.Proofs.Dialect.Statement
import QueryKit.Proofs.Pool
import QueryKit.Proofs.Count
import QueryKit.Proofs.Record.Fetch
import QueryKit.Proofs.Postgres.Bytes
import QueryKit.Proofs.Postgres.Misreading
import QueryKit.Proofs.Postgres.Table
import QueryKit.Proofs.Absence
import QueryKit.Proofs.Rewriting
import QueryKit.Proofs.Admission
import QueryKit.Proofs.Blank
import QueryKit.Proofs.Reading.Remains
import QueryKit.Proofs.Emptiness
import QueryKit.Proofs.ColumnText
import QueryKit.Proofs.Interpolation.Holes
import QueryKit.Proofs.Interpolation.Literals
import QueryKit.Proofs.Interpolation.Stretches
import QueryKit.Proofs.Interpolation.Identifiers
import QueryKit.Proofs.Paging
import QueryKit.Proofs.Insertion
import QueryKit.Proofs.Comment
import QueryKit.Proofs.Record.Separator
import QueryKit.Proofs.CallOrder
import QueryKit.Proofs.Record.Qualifier
import QueryKit.Proofs.RowQueue
import QueryKit.Proofs.Dialect.Registry
import QueryKit.Proofs.Record.Catalog
import QueryKit.Proofs.TableList
import QueryKit.Proofs.Conversion
import QueryKit.Proofs.Truncation
