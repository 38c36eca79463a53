import SqlBatch.Render.Context

/-!
# Combined texts

Texts that were rendered apart become one text with one parameter table. A text that binds a name
to another value is refused as a whole.
-/
namespace SqlBatch

structure Combined where
  sql : String := ""
  parameters : Parameters := {}
  statements : Nat := 0
  parts : Nat := 0
  deriving DecidableEq

namespace Combined

/-- A line break goes between two texts only where there is a text to part from. -/
def append (c : Combined) (r : Rendered) : Except Error Combined :=
  match c.parameters.merge r.parameters with
  | (parameters, .ok ()) =>
    .ok { sql := (if c.sql.isEmpty then c.sql else c.sql ++ "\n") ++ r.sql
          parameters
          statements := c.statements + r.statements
          parts := c.parts + 1 }
  | (_, .error e) => .error e

/-- Offers a text; the combined text that is left comes along with the outcome. -/
def offer (c : Combined) (r : Rendered) : Combined × Except Error Unit :=
  match c.append r with
  | .ok after => (after, .ok ())
  | .error e => (c, .error e)

def isEmpty (c : Combined) : Bool := c.parts = 0

def finish (c : Combined) : Rendered := ⟨c.sql, c.parameters, c.statements⟩

end Combined
end SqlBatch
