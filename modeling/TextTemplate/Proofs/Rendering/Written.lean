/-
**The tags of a written tree.**

A tree is written so that the scanner reads each part as it is, whatever stands behind it. The tags of
a part are thus a function of the part and of the place where it begins.

* `ReadAs`: a text is read as some tags; texts one behind the other are read one after the other;
* `Node.tags`, `tagsOfNodes`: the tags of a tree, and `readAs_printNodes`: **they are what the scanner
  finds**;
* `flatMap_assignments_tagsOfNodes`: the assignments that they hold are those of the tree.
-/

import TextTemplate.Proofs.Rendering.Directives

namespace TextTemplate

/-! ### Texts without delimiters -/

namespace Bare

variable {text : Text}

theorem append {text' : Text} (bare : Bare text) (bare' : Bare text') : Bare (text ++ text') := by
  intro c member
  rcases List.mem_append.mp member with inside | inside
  · exact bare c inside
  · exact bare' c inside

theorem spaced (bare : Bare text) : Bare (' ' :: text ++ [' ']) := by
  have blank : Bare [' '] := by decide
  exact (blank.append bare).append blank

theorem flatten {texts : List Text} (bare : ∀ text ∈ texts, Bare text) : Bare texts.flatten := by
  intro c member
  obtain ⟨text, among, inside⟩ := List.mem_flatten.mp member
  exact bare text among c inside

theorem plain (bare : Bare text) (next : Char) : Plain (text ++ [next]) := by
  induction text with
  | nil => exact List.isChain_singleton next
  | cons c text ih =>
    obtain ⟨notOpen, notClose, notPercent⟩ := bare c List.mem_cons_self
    refine List.isChain_cons.mpr ⟨fun d _ => Loose.of_ne d notOpen notClose notPercent, ?_⟩
    exact ih fun d member => bare d (List.mem_cons_of_mem c member)

end Bare

theorem IsName.bare {name : Text} (valid : IsName name) : Bare name := by
  intro c member
  have continues := valid.all c member
  refine ⟨?_, ?_, ?_⟩ <;> (rintro rfl; exact absurd continues (by decide))

/-! ### Reading -/

/-- **A text is read as some tags**, whatever follows it. -/
def ReadAs (here : Position) (text : Text) (tags : List Tag) : Prop :=
  ∀ rest, scanFrom none here (text ++ rest) = (tags ++ ·) <$> scanFrom none (here.after text) rest

namespace ReadAs

variable {here : Position} {text : Text} {tags : List Tag}

theorem append {text' : Text} {tags' : List Tag} (read : ReadAs here text tags)
    (read' : ReadAs (here.after text) text' tags') : ReadAs here (text ++ text') (tags ++ tags') := by
  intro rest
  rw [List.append_assoc, read (text' ++ rest), read' rest, Functor.map_map, Position.after_append]
  simp only [List.append_assoc]

/-- A text without delimiters has no tags. -/
theorem bare (bare : Bare text) (here : Position) : ReadAs here text [] := by
  intro rest
  have nothing (outcome : Except ScanError (List Tag)) : ([] ++ ·) <$> outcome = outcome :=
    id_map outcome
  rw [nothing]
  cases rest with
  | nil =>
    have plain : Plain text := (List.isChain_append.mp (bare.plain ' ')).1
    rw [List.append_nil]
    exact scanFrom_plain_end plain none here
  | cons next rest => exact scanFrom_plain (bare.plain next) none here rest

/-- A sound tag is read as it is. -/
theorem piece {kind : TagKind} {body : Text} (plain : Plain (body ++ [kind.closeMark])) :
    ReadAs here (kind.opener ++ body ++ kind.closer)
      [⟨kind, here, here.after (kind.opener ++ body ++ kind.closer), body⟩] := by
  have sound : Piece.Sound ⟨[], kind, body⟩ := ⟨List.isChain_singleton _, plain⟩
  exact fun rest => scanFrom_piece sound here rest

theorem statement {inner : Text} (bare : Bare inner) (here : Position) :
    ReadAs here (statementTag inner) [statementAt here inner] :=
  piece (bare.spaced.plain _)

theorem expression {inner : Text} (bare : Bare inner) (here : Position) :
    ReadAs here (expressionTag inner) [expressionAt here inner] :=
  piece (bare.spaced.plain _)

theorem scan (read : ReadAs Position.start text tags) : scan text = .ok tags := by
  have whole := read []
  rw [List.append_nil] at whole
  rw [TextTemplate.scan, whole]
  show Except.ok (tags ++ []) = _
  rw [List.append_nil]

end ReadAs

/-! ### The tags of a tree -/

mutual

/-- The tags of a part that begins at `here`. -/
def Node.tags (here : Position) : Node → List Tag
  | .text _ => []
  | .output expression => [expressionAt here expression]
  | .assign name expression => [statementAt here (assignHead name expression)]
  | .loop name iterable body =>
    let inside := here.after (statementTag (loopHead name iterable))
    [statementAt here (loopHead name iterable)] ++ tagsOfNodes inside body ++
      [statementAt (inside.after (printNodes body)) "endfor".toList]
  | .choice condition body others =>
    let inside := here.after (statementTag ("if ".toList ++ condition))
    let behind := inside.after (printNodes body)
    [statementAt here ("if ".toList ++ condition)] ++ tagsOfNodes inside body ++
      others.tags behind ++ [statementAt (behind.after others.print) "endif".toList]

/-- The tags of parts one behind the other. -/
def tagsOfNodes (here : Position) : List Node → List Tag
  | [] => []
  | node :: nodes => node.tags here ++ tagsOfNodes (here.after node.print) nodes

/-- The tags of what is taken where a condition does not hold. -/
def Others.tags (here : Position) : Others → List Tag
  | .nothing => []
  | .otherwise body =>
    [statementAt here "else".toList] ++
      tagsOfNodes (here.after (statementTag "else".toList)) body
  | .choice condition body others =>
    let inside := here.after (statementTag ("elif ".toList ++ condition))
    [statementAt here ("elif ".toList ++ condition)] ++ tagsOfNodes inside body ++
      others.tags (inside.after (printNodes body))

end

theorem bare_assignHead {name expression : Text} (valid : IsName name)
    (valid' : IsExpression expression) : Bare (assignHead name expression) := by
  have words : Bare "set ".toList ∧ Bare " = ".toList := by decide
  exact ((words.1.append valid.bare).append words.2).append valid'.bare

theorem bare_loopHead {name iterable : Text} (valid : IsName name)
    (valid' : IsExpression iterable) : Bare (loopHead name iterable) := by
  have words : Bare "for ".toList ∧ Bare " in ".toList := by decide
  exact ((words.1.append valid.bare).append words.2).append valid'.bare

mutual

theorem readAs_print (node : Node) (valid : node.WellFormed) (here : Position) :
    ReadAs here node.print (node.tags here) := by
  match node with
  | .text text => exact ReadAs.bare valid here
  | .output expression => exact ReadAs.expression valid.bare here
  | .assign name expression =>
    exact ReadAs.statement (bare_assignHead valid.1 valid.2) here
  | .loop name iterable body =>
    obtain ⟨named, iterates, inner⟩ := valid
    simp only [Node.print, Node.tags, List.append_assoc]
    exact (ReadAs.statement (bare_loopHead named iterates) here).append
      ((readAs_printNodes body inner _).append (ReadAs.statement (by decide) _))
  | .choice condition body others =>
    obtain ⟨conditional, inner, others'⟩ := valid
    have head : Bare ("if ".toList ++ condition) := Bare.append (by decide) conditional.bare
    simp only [Node.print, Node.tags, List.append_assoc]
    exact (ReadAs.statement head here).append ((readAs_printNodes body inner _).append
      ((readAs_printOthers others others' _).append (ReadAs.statement (by decide) _)))

/-- **The scanner finds the tags of the tree**, whatever stands behind it. -/
theorem readAs_printNodes (nodes : List Node) (valid : WellFormedNodes nodes) (here : Position) :
    ReadAs here (printNodes nodes) (tagsOfNodes here nodes) := by
  match nodes with
  | [] => exact ReadAs.bare (by decide) here
  | node :: nodes =>
    exact (readAs_print node valid.1 here).append (readAs_printNodes nodes valid.2 _)

theorem readAs_printOthers (others : Others) (valid : others.WellFormed) (here : Position) :
    ReadAs here others.print (others.tags here) := by
  match others with
  | .nothing => exact ReadAs.bare (by decide) here
  | .otherwise body =>
    exact (ReadAs.statement (by decide) here).append (readAs_printNodes body valid _)
  | .choice condition body others =>
    obtain ⟨conditional, inner, others'⟩ := valid
    have head : Bare ("elif ".toList ++ condition) := Bare.append (by decide) conditional.bare
    simp only [Others.print, Others.tags, List.append_assoc]
    exact (ReadAs.statement head here).append ((readAs_printNodes body inner _).append
      (readAs_printOthers others others' _))

end

/-! ### Assignments -/

theorem Tag.assignments_eq_nil {tag : Tag} {keyword : String} {argument : Text}
    (found : tag.directive? = some (keyword, argument)) (other : keyword ≠ "set") :
    tag.assignments = [] := by
  rw [Tag.assignments, found]
  split
  · rename_i same
    cases same
    exact absurd rfl other
  · rfl

mutual

theorem flatMap_assignments_tags (node : Node) (valid : node.WellFormed) (here : Position) :
    (node.tags here).flatMap Tag.assignments = node.assignments := by
  match node with
  | .text _ => rfl
  | .output _ => rfl
  | .assign name expression =>
    rw [Node.tags, List.flatMap_singleton, assignments_assignHead here valid.1 valid.2,
      Node.assignments]
  | .loop name iterable body =>
    obtain ⟨named, iterates, inner⟩ := valid
    have opens := Tag.assignments_eq_nil (directive?_loopHead here named iterates) (by decide)
    have closes (here : Position) :=
      Tag.assignments_eq_nil (directive?_word here "endfor" (by decide)) (by decide)
    simp only [Node.tags, Node.assignments, List.flatMap_append, List.flatMap_singleton, opens,
      closes, flatMap_assignments_tagsOfNodes body inner, List.nil_append, List.append_nil]
  | .choice condition body others =>
    obtain ⟨conditional, inner, others'⟩ := valid
    have opens := Tag.assignments_eq_nil (directive?_if here conditional) (by decide)
    have closes (here : Position) :=
      Tag.assignments_eq_nil (directive?_word here "endif" (by decide)) (by decide)
    simp only [Node.tags, Node.assignments, List.flatMap_append, List.flatMap_singleton, opens,
      closes, flatMap_assignments_tagsOfNodes body inner,
      flatMap_assignments_tagsOfOthers others others', List.nil_append, List.append_nil]

/-- **The assignments in the tags of a tree are those of the tree.** -/
theorem flatMap_assignments_tagsOfNodes (nodes : List Node) (valid : WellFormedNodes nodes)
    (here : Position) : (tagsOfNodes here nodes).flatMap Tag.assignments = assignmentsOf nodes := by
  match nodes with
  | [] => rfl
  | node :: nodes =>
    rw [tagsOfNodes, List.flatMap_append, flatMap_assignments_tags node valid.1,
      flatMap_assignments_tagsOfNodes nodes valid.2, assignmentsOf]

theorem flatMap_assignments_tagsOfOthers (others : Others) (valid : others.WellFormed)
    (here : Position) : (others.tags here).flatMap Tag.assignments = others.assignments := by
  match others with
  | .nothing => rfl
  | .otherwise body =>
    have begins := Tag.assignments_eq_nil (directive?_word here "else" (by decide)) (by decide)
    simp only [Others.tags, Others.assignments, List.flatMap_append, List.flatMap_singleton, begins,
      flatMap_assignments_tagsOfNodes body valid, List.nil_append]
  | .choice condition body others =>
    obtain ⟨conditional, inner, others'⟩ := valid
    have begins := Tag.assignments_eq_nil (directive?_elif here conditional) (by decide)
    simp only [Others.tags, Others.assignments, List.flatMap_append, List.flatMap_singleton, begins,
      flatMap_assignments_tagsOfNodes body inner, flatMap_assignments_tagsOfOthers others others',
      List.nil_append]

end

end TextTemplate
