import Enso.Ast.Visit
import Enso.Ast.Span
import Enso.Ast.Canonical
import Enso.JsonRpc.Incoming
import Enso.JsonRpc.Accept
import Enso.Ast.Length
