set_option autoImplicit false

namespace HeaderRelay

/-- What a reader looks at in a node. -/
inductive Shape
  /-- The node itself. -/
  | leaf
  /-- All of the node, of which a member of the given name tells the kind. -/
  | variant (name : String)
  /-- The members of these names. -/
  | record (members : List (String × Shape))

end HeaderRelay
