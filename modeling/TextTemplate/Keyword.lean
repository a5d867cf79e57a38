/-
**The keywords of statements.**
-/

namespace TextTemplate

/-- The keywords of assignments, conditions and loops. -/
def controlKeywords : List String :=
  ["set", "if", "elif", "else", "endif", "for", "endfor"]

/-- The keywords that only shape a template. -/
def structuralKeywords : List String :=
  ["block", "endblock", "extends", "include", "client", "endclient", "only", "endonly"]

/-- Whether a statement only shapes a template; `extra` are further keywords that do. -/
def isStructural (extra : List String) (keyword : String) : Bool :=
  structuralKeywords.contains keyword || extra.contains keyword

/-- Whether a statement is a directive, which has no output of its own. -/
def isDirective (extra : List String) (keyword : String) : Bool :=
  controlKeywords.contains keyword || isStructural extra keyword

end TextTemplate
