/-!
Cancellation. A `CancelTree` holds one token for every context that can be cancelled on its own.
A token is derived from at most one other, which is older; it is cancelled when it or any token
it comes from was cancelled. Tokens are never removed and a cancelled one stays so.
-/

namespace ResilientHttp

/-- A token: the number of tokens that are older. -/
abbrev Token := Nat

/-- What is known of one token: where it comes from, and whether it was cancelled itself. -/
structure TokenNode where
  parent : Option Token
  cancelled : Bool
  deriving DecidableEq, Repr

/-- All tokens, the newest first. -/
structure CancelTree where
  nodes : List TokenNode
  deriving DecidableEq, Repr

namespace CancelTree

/-- No tokens. -/
def empty : CancelTree := ⟨[]⟩

/-- The token that the next derivation gives. -/
def fresh (tree : CancelTree) : Token := tree.nodes.length

/-- The tree with a new token, derived from another one or from none. -/
def derive (tree : CancelTree) (parent : Option Token) : CancelTree :=
  ⟨⟨parent, false⟩ :: tree.nodes⟩

/-- Whether a token or one that it comes from is cancelled, among tokens from newest to oldest. -/
def cancelledIn : List TokenNode → Token → Bool
  | [], _ => false
  | node :: older, token =>
    if token = older.length then
      node.cancelled ||
        match node.parent with
        | some parent => cancelledIn older parent
        | none => false
    else cancelledIn older token

/-- Whether a token is cancelled, by itself or through one that it comes from. -/
def isCancelled (tree : CancelTree) (token : Token) : Bool := cancelledIn tree.nodes token

/-- Marks a token among tokens from newest to oldest. -/
def mark : List TokenNode → Token → List TokenNode
  | [], _ => []
  | node :: older, token =>
    if token = older.length then { node with cancelled := true } :: older
    else node :: mark older token

/-- The tree with a token cancelled. -/
def cancel (tree : CancelTree) (token : Token) : CancelTree := ⟨mark tree.nodes token⟩

end CancelTree
end ResilientHttp
