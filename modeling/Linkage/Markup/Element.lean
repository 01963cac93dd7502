/-!
# Elements

What is left of a marked-up document once it is read: a tree of elements, each with its
attributes. The text between elements carries nothing here and is dropped.

A name has two parts, a namespace and a base. A *plain* name is one without a namespace,
and the questions below ask by plain names only.
-/

namespace Linkage.Markup

/-- **A name**: its namespace, empty for a plain name, and its base. -/
structure Name where
  space : String
  base : String
  deriving Repr, DecidableEq, Inhabited

/-- The name without a namespace. -/
def Name.plain (base : String) : Name := ⟨"", base⟩

/-- **An element** with its attributes and the elements directly inside it. -/
structure Element where
  name : Name
  attributes : List (Name × String)
  children : List Element
  deriving Inhabited

namespace Element

/-- The value of the attribute of a plain name. -/
def attribute? (e : Element) (base : String) : Option String :=
  e.attributes.lookup (Name.plain base)

/-- **The elements of a plain name directly inside an element**, in order. -/
def childrenNamed (e : Element) (base : String) : List Element :=
  e.children.filter (·.name == Name.plain base)

/-- **The first element of a plain name directly inside an element.** -/
def child? (e : Element) (base : String) : Option Element :=
  e.children.find? (·.name == Name.plain base)

/-- The first element of a name is the first of all elements of that name. -/
theorem child?_eq_head? (e : Element) (base : String) :
    e.child? base = (e.childrenNamed base).head? := by
  simp [child?, childrenNamed, List.head?_filter]

end Element

end Linkage.Markup
