import SqlTree.Parse.Analysis
import SqlTree.Parse.Select
import SqlTree.Pool.Renderer
import SqlTree.Pool.Session
import SqlTree.Proofs.Parse.Attribution
import SqlTree.Proofs.Parse.Correspondence
import SqlTree.Proofs.Parse.Counters
import SqlTree.Proofs.Parse.ErrorReports
import SqlTree.Proofs.Parse.FilterRoundTrip
import SqlTree.Proofs.Parse.Finality
import SqlTree.Proofs.Parse.FirstError
import SqlTree.Proofs.Parse.Fragments
import SqlTree.Proofs.Parse.JoinRoundTrip
import SqlTree.Proofs.Parse.NestedQueries
import SqlTree.Proofs.Parse.QueryExcerpt
import SqlTree.Proofs.Parse.QueryRoundTrip
import SqlTree.Proofs.Pool.Guards
import SqlTree.Proofs.Pool.Rendering
import SqlTree.Proofs.Render.Assembly
import SqlTree.Proofs.Render.Comments
import SqlTree.Proofs.Render.CompleteTrees
import SqlTree.Proofs.Render.ConditionClauses
import SqlTree.Proofs.Render.ConditionalStatements
import SqlTree.Proofs.Render.Legible
import SqlTree.Proofs.Render.LegibleTrees
import SqlTree.Proofs.Render.NamedArguments
import SqlTree.Proofs.Render.Placeholders
import SqlTree.Proofs.Render.TextAlone
import SqlTree.Proofs.Render.Transparency
import SqlTree.Proofs.Render.Values
import SqlTree.Proofs.Time.Instants
import SqlTree.Proofs.Token.Concatenation
import SqlTree.Proofs.Token.Layout
import SqlTree.Proofs.Token.LineFeeds
import SqlTree.Proofs.Token.Lookahead
import SqlTree.Proofs.Token.Pulling
import SqlTree.Proofs.Token.Tiling
import SqlTree.Token.Cursor
import SqlTree.Tree.Same
