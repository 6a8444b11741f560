import SqlStatement.Condition.Factory
import SqlStatement.Config
import SqlStatement.Dialect.Known
import SqlStatement.Draft
import SqlStatement.Error.Equality
import SqlStatement.Expr.Factory
import SqlStatement.Distinct
import SqlStatement.Layout
import SqlStatement.OrderField
import SqlStatement.Tree.Equality
import SqlStatement.Writer.Desk
import SqlStatement.Proofs.ConditionMeaning
import SqlStatement.Proofs.ImportCheck
import SqlStatement.Proofs.Rebuild
import SqlStatement.Proofs.ClosedScope
import SqlStatement.Proofs.Skeleton
import SqlStatement.Proofs.Resolution
import SqlStatement.Proofs.Unambiguous
import SqlStatement.Proofs.FirstFault
import SqlStatement.Proofs.BackslashReading
import SqlStatement.Proofs.Paging
import SqlStatement.Proofs.Qualifier
import SqlStatement.Proofs.Traversal
import SqlStatement.Proofs.Collecting
import SqlStatement.Proofs.Canonical
import SqlStatement.Proofs.PagingSections
import SqlStatement.Proofs.EqualDrafts
import SqlStatement.Proofs.Interleaving
import SqlStatement.Proofs.Remaking
import SqlStatement.Proofs.DialectPolicy
import SqlStatement.Proofs.DeclaredQuoting
import SqlStatement.Proofs.FlatChains
import SqlStatement.Proofs.ArraySpelling
import SqlStatement.Proofs.NameSets
import SqlStatement.Proofs.QuotedReading
