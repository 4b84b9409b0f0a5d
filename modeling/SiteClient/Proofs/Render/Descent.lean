import SiteClient.Proofs.Render.Injection

/-!
# An expansion ends

The text that a section rule expands in its turn is parsed when the section is met, so an expansion
does not follow one tree down to its leaves. `expandBy` tests the length of each such text and would
write nothing for one that is too long. `Runs` is the recursion without that test: what a source,
nodes or a node come to, and every nested expansion that is made on the way.

## Why it ends

A nested text is the body of a section or the parameter in it. Both are cut out of the source, as it
stands, and without the tag that opens the section, so they are shorter
(`length_lt_of_mem_sections`). Nothing of a context is ever parsed. Hence every source has a run, by
induction on its length and for each length on the nodes, whatever is in the scope; there is one run
only, it comes to what `expandSource` comes to, and the test of lengths never decides anything
(`expandSource_eq`, `exists_run_of_source`).
-/

namespace SiteClient

/-! ## The length of a body -/

namespace Template

theorem Nests.length_lt_of_mem_sections {ps : List Piece} {nodes : List Node} (h : Nests ps nodes)
    (hne : ∀ {source tag}, .tag source tag ∈ ps → source ≠ []) {s : Text × Text}
    (hs : s ∈ sections nodes) : s.2.length < (ps.flatMap Piece.source).length := by
  induction h with
  | nil => cases hs
  | @leaf piece written nodes rest hleaf _ ih =>
    rw [sections_append, sections_leaf hleaf, List.nil_append] at hs
    have hrest := ih (fun htag ↦ hne (List.mem_cons_of_mem _ htag)) hs
    rw [List.flatMap_cons, List.length_append]
    exact Nat.lt_add_left _ hrest
  | @nested opening closing name inverted inner rest children nodes _ _ ihinner ih =>
    have hopening : 0 < opening.length := List.length_pos_iff.mpr (hne List.mem_cons_self)
    have hmem {piece : Piece} (hpiece : piece ∈ inner ∨ piece ∈ rest) :
        piece ∈ Piece.tag opening (.openSection name inverted) ::
          (inner ++ .tag closing (.closeSection name) :: rest) := by
      rw [List.mem_cons, List.mem_append, List.mem_cons]
      exact .inr (hpiece.imp_right .inr)
    have hchildren (hs : s ∈ sections children) :
        s.2.length < (inner.flatMap Piece.source).length :=
      ihinner (fun htag ↦ hne (hmem (.inl htag))) hs
    have hsection : s.2.length ≤ (inner.flatMap Piece.source).length ∨
        s.2.length < (rest.flatMap Piece.source).length := by
      rw [sections, List.mem_append] at hs
      obtain hs | hs := hs
      · cases inverted with
        | true => exact .inl (hchildren hs).le
        | false =>
          obtain rfl | hs := List.mem_cons.mp hs
          · exact .inl le_rfl
          · exact .inl (hchildren hs).le
      · exact .inr (ih (fun htag ↦ hne (hmem (.inr htag))) hs)
    simp only [List.flatMap_cons, List.flatMap_append, List.length_append, Piece.source]
    omega

/-- The body of a section is shorter than the source, for the tag that opens the section is no part
of it. -/
theorem length_lt_of_mem_sections {source : Text} {template : Template}
    (h : parse source = .ok template)
    {s : Text × Text} (hs : s ∈ sections template) : s.2.length < source.length := by
  obtain ⟨segs, hsegmented, rfl, hnests⟩ := parse_eq_ok_iff.mp h
  have hlength := hnests.length_lt_of_mem_sections (fun {opening tag} htag ↦ ?_) hs
  · rwa [sources_layOut, List.nil_append] at hlength
  · -- The tags of the pieces are those of the segments.
    have hmem : (opening, tag) ∈ (layOut true [] segs).filterMap Piece.tag? :=
      List.mem_filterMap.mpr ⟨_, htag, rfl⟩
    rw [tags_layOut] at hmem
    obtain ⟨seg, hseg, heq⟩ := List.mem_filterMap.mp hmem
    obtain rfl := Segment.tag?_eq_some_iff.mp heq
    exact (hsegmented.isTag_of_mem hseg).ne_nil

end Template

namespace Expansion

open Placeholder Template Template.Coupling

/-! ## The recursion without a test -/

/-- The expansion of a text for a section of a source. -/
structure NestedCall where
  source : Text
  text : Text
  deriving DecidableEq, Repr

/-- The text that is expanded is a part of the source, and shorter. -/
def NestedCall.Descends (call : NestedCall) : Prop :=
  call.text <:+: call.source ∧ call.text.length < call.source.length

/-- What an expansion is busy with. Nodes and items stand for those of the source that is being
expanded. -/
inductive Task where
  | source (source : Text) (scope : Scope)
  | nodes (source : Text) (scope : Scope) (nodes : List Node)
  | node (source : Text) (scope : Scope) (node : Node)
  /-- The nodes once for each item, with the item as the innermost context. -/
  | items (source : Text) (scope : Scope) (nodes : List Node) (items : List Json)

/-- What a task comes to: an error, or what it writes and what has been collected until then. -/
abbrev Outcome := Except TemplateError (Text × Collected)

/-- What becomes of a section that is not inverted. -/
inductive Treatment where
  /-- A string without a parameter. -/
  | string
  /-- A string with a parameter, which is expanded first. -/
  | parameter
  | icon
  | script
  /-- The section has its ordinary meaning: its nodes once for each item. -/
  | each (items : List Json)
  /-- The section has its ordinary meaning: its nodes with the value as the innermost context. -/
  | enter (v : Json)
  | skip

/-- What becomes of a section, by its name, its body and the scope. -/
def treatment (name body : Text) (scope : Scope) : Treatment :=
  if name = "str".toList then if (arguments body).2.2 = [] then .string else .parameter
  else if name = "pix".toList then .icon
  else if name = "js".toList then .script
  else
    match scope.lookup name with
    | some (.array items) => .each items
    | some v => if isTruthy v then .enter v else .skip
    | none => .skip

/-- `Runs style task s calls o`: the task, begun with `s` collected, comes to `o`, and makes the
nested expansions `calls` on its way, in this order. -/
inductive Runs (style : IconStyle) : Task → Collected → List NestedCall → Outcome → Prop
  /-- The source is no template. -/
  | fault {source : Text} {scope : Scope} {s : Collected} {e : TemplateError}
      (hparsed : parsed source = .error e) : Runs style (.source source scope) s [] (.error e)
  | template {source : Text} {scope : Scope} {s : Collected} {template : Template}
      {calls : List NestedCall} {o : Outcome} (hparsed : parsed source = .ok template)
      (hnodes : Runs style (.nodes source scope template) s calls o) :
      Runs style (.source source scope) s calls o
  | noNode {source : Text} {scope : Scope} {s : Collected} :
      Runs style (.nodes source scope []) s [] (.ok ([], s))
  /-- The nodes behind one that fails are not looked at. -/
  | stop {source : Text} {scope : Scope} {s : Collected} {node : Node} {rest : List Node}
      {calls : List NestedCall} {e : TemplateError}
      (hnode : Runs style (.node source scope node) s calls (.error e)) :
      Runs style (.nodes source scope (node :: rest)) s calls (.error e)
  | next {source : Text} {scope : Scope} {s s' : Collected} {node : Node} {rest : List Node}
      {calls calls' : List NestedCall} {t : Text} {o : Outcome}
      (hnode : Runs style (.node source scope node) s calls (.ok (t, s')))
      (hrest : Runs style (.nodes source scope rest) s' calls' o) :
      Runs style (.nodes source scope (node :: rest)) s (calls ++ calls')
        (o.map (Prod.map (t ++ ·) id))
  | noItem {source : Text} {scope : Scope} {nodes : List Node} {s : Collected} :
      Runs style (.items source scope nodes []) s [] (.ok ([], s))
  /-- The items behind one that fails are not looked at. -/
  | stopItem {source : Text} {scope : Scope} {nodes : List Node} {s : Collected} {item : Json}
      {rest : List Json} {calls : List NestedCall} {e : TemplateError}
      (hitem : Runs style (.nodes source (item :: scope) nodes) s calls (.error e)) :
      Runs style (.items source scope nodes (item :: rest)) s calls (.error e)
  | nextItem {source : Text} {scope : Scope} {nodes : List Node} {s s' : Collected} {item : Json}
      {rest : List Json} {calls calls' : List NestedCall} {t : Text} {o : Outcome}
      (hitem : Runs style (.nodes source (item :: scope) nodes) s calls (.ok (t, s')))
      (hrest : Runs style (.items source scope nodes rest) s' calls' o) :
      Runs style (.items source scope nodes (item :: rest)) s (calls ++ calls')
        (o.map (Prod.map (t ++ ·) id))
  | text {source : Text} {scope : Scope} {s : Collected} (t : Text) :
      Runs style (.node source scope (.text t)) s [] (.ok (guarded t, s))
  | unset {source : Text} {scope : Scope} {s : Collected} {name : Text} (escaped : Bool)
      (hlookup : scope.lookup name = none) :
      Runs style (.node source scope (.variable name escaped)) s [] (.ok ([], s))
  | value {source : Text} {scope : Scope} {s : Collected} {name : Text} (escaped : Bool) {v : Json}
      (hlookup : scope.lookup name = some v) :
      Runs style (.node source scope (.variable name escaped)) s []
        (.ok (guarded (if escaped then escapeHtml (display v) else display v), s))
  /-- An inverted section with a value writes nothing. -/
  | hidden {source : Text} {scope : Scope} {s : Collected} {name : Text} (body : Text)
      (children : List Node) (htruthy : ((scope.lookup name).map isTruthy).getD false = true) :
      Runs style (.node source scope (.section name true body children)) s [] (.ok ([], s))
  | shown {source : Text} {scope : Scope} {s : Collected} {name : Text} (body : Text)
      {children : List Node} {calls : List NestedCall} {o : Outcome}
      (htruthy : ((scope.lookup name).map isTruthy).getD false = false)
      (hchildren : Runs style (.nodes source scope children) s calls o) :
      Runs style (.node source scope (.section name true body children)) s calls o
  | string {source : Text} {scope : Scope} {s : Collected} {name body : Text} (children : List Node)
      (htreatment : treatment name body scope = .string) :
      Runs style (.node source scope (.section name false body children)) s []
        ((requestString (.of (arguments body).1 (arguments body).2.1)).run s)
  | parameter {source : Text} {scope : Scope} {s : Collected} {name body : Text}
      (children : List Node)
      {calls : List NestedCall} {o : Outcome} (htreatment : treatment name body scope = .parameter)
      (hexpand : Runs style (.source (arguments body).2.2 scope) s calls o) :
      Runs style (.node source scope (.section name false body children)) s
        (⟨source, (arguments body).2.2⟩ :: calls)
        (o.bind fun r ↦ (Expansion.parameter (substitute r.1 [])).bind fun param ↦
          (requestString (.of (arguments body).1 (arguments body).2.1 param)).run r.2)
  | icon {source : Text} {scope : Scope} {s : Collected} {name body : Text} (children : List Node)
      (htreatment : treatment name body scope = .icon) :
      Runs style (.node source scope (.section name false body children)) s []
        ((iconMarkup style body).map fun markup ↦ (guarded markup, s))
  | script {source : Text} {scope : Scope} {s : Collected} {name body : Text} (children : List Node)
      {calls : List NestedCall} {o : Outcome} (htreatment : treatment name body scope = .script)
      (hexpand : Runs style (.source body scope) s calls o) :
      Runs style (.node source scope (.section name false body children)) s
        (⟨source, body⟩ :: calls)
        (o.map fun r ↦ ([], { r.2 with scripts := r.2.scripts ++ [r.1] }))
  | each {source : Text} {scope : Scope} {s : Collected} {name body : Text} {children : List Node}
      {items : List Json} {calls : List NestedCall} {o : Outcome}
      (htreatment : treatment name body scope = .each items)
      (hitems : Runs style (.items source scope children items) s calls o) :
      Runs style (.node source scope (.section name false body children)) s calls o
  | enter {source : Text} {scope : Scope} {s : Collected} {name body : Text} {children : List Node}
      {v : Json} {calls : List NestedCall} {o : Outcome}
        (htreatment : treatment name body scope = .enter v)
      (hchildren : Runs style (.nodes source (v :: scope) children) s calls o) :
      Runs style (.node source scope (.section name false body children)) s calls o
  | skip {source : Text} {scope : Scope} {s : Collected} {name body : Text} (children : List Node)
      (htreatment : treatment name body scope = .skip) :
      Runs style (.node source scope (.section name false body children)) s [] (.ok ([], s))

variable {style : IconStyle} {task : Task} {s : Collected} {calls : List NestedCall} {o : Outcome}

/-! ## The test of lengths -/

/-- **The test never decides anything.** A source is parsed, and its nodes are rendered by rules
that expand any text as a source. -/
theorem expandSource_eq (style : IconStyle) (source : Text) (scope : Scope) :
    expandSource style source scope =
      (liftM (parsed source) >>= renderAll (rules style (expandSource style)) scope) := by
  rw [expandSource, expandBy]
  refine coupled_equal_iff.mp (coupled_liftM _ fun template htemplate ↦ ?_)
  have hfilter (t : Text) : (equal Collected).Coupled (return guarded t) (return guarded t) :=
    coupled_equal_iff.mpr rfl
  refine coupled_renderAll (L := .same) hfilter rfl template
    (fun name _ ↦ Likeness.blind_same name) fun part hpart ↦ ?_
  refine expandsIn_rules style (fun text scope _ htext hscope ↦ ?_) part.1
  obtain rfl := hscope
  have hlength := length_lt_of_mem_sections (parsed_eq_ok_iff.mp htemplate) hpart
  exact if_pos (htext.length_le.trans_lt hlength)

/-! ## What a run comes to -/

/-- The task as a pass. -/
def Task.pass (style : IconStyle) : Task → Pass Collected Text
  | .source text scope => expandSource style text scope
  | .nodes _ scope written => renderAll (rules style (expandSource style)) scope written
  | .node _ scope written => written.render (rules style (expandSource style)) scope
  | .items _ scope written values => do
    return (← values.mapM fun v ↦
      renderAll (rules style (expandSource style)) (v :: scope) written).flatten

section

variable {expand : Text → Scope → Pass Collected Text} {name body : Text} {scope : Scope}
  {children : List Node}

theorem render_section (name body : Text) (children : List Node) (scope : Scope) :
    (Node.section name false body children).render (rules style expand) scope =
      match treatment name body scope with
      | .string => requestString (.of (arguments body).1 (arguments body).2.1)
      | .parameter => do
        let expanded ← expand (arguments body).2.2 scope
        let param ← liftM (parameter (substitute expanded []))
        requestString (.of (arguments body).1 (arguments body).2.1 param)
      | .icon => iconSection style body
      | .script => scriptSection (expand · scope) body
      | .each items => do
        return (← items.mapM fun item ↦
          renderAll (rules style expand) (item :: scope) children).flatten
      | .enter v => renderAll (rules style expand) (v :: scope) children
      | .skip => return [] := by
  rw [Node.render, rules, treatment]
  by_cases hstr : name = "str".toList
  · rcases harguments : arguments body with ⟨key, component, param⟩
    by_cases hparam : param = []
    · simp only [if_pos hstr, if_pos hparam, stringSection, harguments]
    · simp only [if_pos hstr, if_neg hparam, stringSection, harguments]
  by_cases hpix : name = "pix".toList
  · simp only [if_neg hstr, if_pos hpix]
  by_cases hjs : name = "js".toList
  · simp only [if_neg hstr, if_neg hpix, if_pos hjs]
  -- No rule takes the section.
  simp only [if_neg hstr, if_neg hpix, if_neg hjs]
  cases scope.lookup name with
  | none => rfl
  | some v =>
    cases v with
    | array items => rfl
    | null | bool | number | string | object =>
      dsimp only
      split <;> rfl

end

theorem run_iconSection (body : Text) (s : Collected) : (iconSection style body).run s =
    (iconMarkup style body).map fun markup ↦ (guarded markup, s) := by
  rw [iconSection]
  cases iconMarkup style body <;> rfl

theorem run_scriptSection (expand : Text → Pass Collected Text) (body : Text) (s : Collected) :
    (scriptSection expand body).run s =
      ((expand body).run s).map fun r ↦ ([], { r.2 with scripts := r.2.scripts ++ [r.1] }) := by
  rw [scriptSection]
  change (expand body).run s >>= _ = _
  cases (expand body).run s <;> rfl

theorem flatten_mapM_cons (f : Json → Pass Collected Text) (v : Json) (values : List Json) :
    (do return (← (v :: values).mapM f).flatten : Pass Collected Text) =
      (do return (← f v) ++ (← (do return (← values.mapM f).flatten : Pass Collected Text))) := by
  simp only [List.mapM_cons, bind_assoc, pure_bind, List.flatten_cons]

theorem run_append {p q : Pass Collected Text} {t : Text} {s' : Collected} {o : Outcome}
    (hp : p.run s = .ok (t, s')) (hq : q.run s' = o) :
    (do return (← p) ++ (← q) : Pass Collected Text).run s = o.map (Prod.map (t ++ ·) id) := by
  subst hq
  simp only [StateT.run_bind, hp]
  change (q.run s' >>= fun r ↦ Except.ok (t ++ r.1, r.2)) = _
  cases q.run s' <;> rfl

theorem run_append_of_error {p : Pass Collected Text} (q : Pass Collected Text) {e : TemplateError}
    (hp : p.run s = .error e) :
    (do return (← p) ++ (← q) : Pass Collected Text).run s = .error e := by
  simp only [StateT.run_bind, hp]
  rfl

/-- **A run comes to what the expansion comes to.** -/
theorem Runs.run_eq (h : Runs style task s calls o) : (task.pass style).run s = o := by
  induction h with
  | @fault source scope s e hparsed =>
    rw [Task.pass, expandSource_eq, hparsed]
    rfl
  | @template source scope s template calls o hparsed _ ih =>
    rw [Task.pass, expandSource_eq, hparsed]
    exact ih
  | noNode =>
    rw [Task.pass, renderAll]
    rfl
  | stop _ ih =>
    rw [Task.pass, renderAll]
    exact run_append_of_error _ ih
  | next _ _ ihnode ihrest =>
    rw [Task.pass, renderAll]
    exact run_append ihnode ihrest
  | noItem => rfl
  | stopItem _ ih =>
    rw [Task.pass, flatten_mapM_cons]
    exact run_append_of_error _ ih
  | nextItem _ _ ihitem ihrest =>
    rw [Task.pass, flatten_mapM_cons]
    exact run_append ihitem ihrest
  | text t =>
    rw [Task.pass, Node.render]
    rfl
  | unset escaped hlookup =>
    rw [Task.pass, Node.render, hlookup]
    rfl
  | value escaped hlookup =>
    rw [Task.pass, Node.render, hlookup]
    rfl
  | hidden body children htruthy =>
    rw [Task.pass, Node.render, if_pos htruthy]
    rfl
  | shown body htruthy _ ih =>
    rw [Task.pass, Node.render, if_neg (by rw [htruthy]; exact Bool.false_ne_true)]
    exact ih
  | string children htreatment => rw [Task.pass, render_section, htreatment]
  | parameter children htreatment _ ih =>
    subst ih
    rw [Task.pass, Task.pass, render_section, htreatment]
    refine congrArg (Except.bind _) (funext fun ⟨expanded, s'⟩ ↦ ?_)
    dsimp only
    cases Expansion.parameter (substitute expanded []) <;> rfl
  | icon children htreatment =>
    rw [Task.pass, render_section, htreatment]
    exact run_iconSection _ _
  | script children htreatment _ ih =>
    subst ih
    rw [Task.pass, Task.pass, render_section, htreatment]
    exact run_scriptSection _ _ _
  | each htreatment _ ih | enter htreatment _ ih =>
    rw [Task.pass, render_section, htreatment]
    exact ih
  | skip children htreatment =>
    rw [Task.pass, render_section, htreatment]
    rfl

/-! ## There is one run -/

theorem Runs.outcome_eq {calls' : List NestedCall} {o' : Outcome} (h : Runs style task s calls o)
    (h' : Runs style task s calls' o') : o = o' :=
  h.run_eq.symm.trans h'.run_eq

/-- What a run does is decided by its task and by what has been collected. -/
theorem Runs.calls_eq {calls' : List NestedCall} {o' : Outcome} (h : Runs style task s calls o)
    (h' : Runs style task s calls' o') : calls = calls' := by
  induction h generalizing calls' o' with
  | fault hparsed => cases h' with
    | fault => rfl
    | template hparsed' => cases hparsed.symm.trans hparsed'
  | template hparsed _ ih => cases h' with
    | fault hparsed' => cases hparsed.symm.trans hparsed'
    | template hparsed' hnodes' =>
      obtain rfl := Except.ok.inj (hparsed.symm.trans hparsed')
      exact ih hnodes'
  | noNode => cases h' with
    | noNode => rfl
  | stop hnode ih => cases h' with
    | stop hnode' => exact ih hnode'
    | next hnode' => cases hnode.outcome_eq hnode'
  | next hnode _ ihnode ihrest => cases h' with
    | stop hnode' => cases hnode.outcome_eq hnode'
    | next hnode' hrest' =>
      obtain ⟨rfl, rfl⟩ := Prod.mk.inj (Except.ok.inj (hnode.outcome_eq hnode'))
      rw [ihnode hnode', ihrest hrest']
  | noItem => cases h' with
    | noItem => rfl
  | stopItem hitem ih => cases h' with
    | stopItem hitem' => exact ih hitem'
    | nextItem hitem' => cases hitem.outcome_eq hitem'
  | nextItem hitem _ ihitem ihrest => cases h' with
    | stopItem hitem' => cases hitem.outcome_eq hitem'
    | nextItem hitem' hrest' =>
      obtain ⟨rfl, rfl⟩ := Prod.mk.inj (Except.ok.inj (hitem.outcome_eq hitem'))
      rw [ihitem hitem', ihrest hrest']
  | text t => cases h' with
    | text => rfl
  | unset escaped hlookup => cases h' with
    | unset => rfl
    | value => rfl
  | value escaped hlookup => cases h' with
    | unset => rfl
    | value => rfl
  | hidden body children htruthy => cases h' with
    | hidden => rfl
    | shown _ htruthy' => cases htruthy.symm.trans htruthy'
  | shown body htruthy _ ih => cases h' with
    | hidden _ _ htruthy' => cases htruthy'.symm.trans htruthy
    | shown _ _ hchildren' => exact ih hchildren'
  | string _ htreatment | icon _ htreatment | skip _ htreatment =>
    cases h' with
    | string | icon | skip => rfl
    | parameter _ htreatment' | script _ htreatment' | each htreatment' | enter htreatment' =>
      cases htreatment.symm.trans htreatment'
  | parameter _ htreatment _ ih =>
    cases h' with
    | parameter _ _ hexpand' => rw [ih hexpand']
    | string _ htreatment' | icon _ htreatment' | script _ htreatment'
    | each htreatment' | enter htreatment' | skip _ htreatment' =>
      cases htreatment.symm.trans htreatment'
  | script _ htreatment _ ih =>
    cases h' with
    | script _ _ hexpand' => rw [ih hexpand']
    | string _ htreatment' | parameter _ htreatment' | icon _ htreatment'
    | each htreatment' | enter htreatment' | skip _ htreatment' =>
      cases htreatment.symm.trans htreatment'
  | each htreatment _ ih =>
    cases h' with
    | each htreatment' hitems' =>
      cases htreatment.symm.trans htreatment'
      exact ih hitems'
    | string _ htreatment' | parameter _ htreatment' | icon _ htreatment'
    | script _ htreatment' | enter htreatment' | skip _ htreatment' =>
      cases htreatment.symm.trans htreatment'
  | enter htreatment _ ih =>
    cases h' with
    | enter htreatment' hchildren' =>
      cases htreatment.symm.trans htreatment'
      exact ih hchildren'
    | string _ htreatment' | parameter _ htreatment' | icon _ htreatment'
    | script _ htreatment' | each htreatment' | skip _ htreatment' =>
      cases htreatment.symm.trans htreatment'

/-! ## Every task ends -/

/-- The task comes to an end, whatever has been collected before. -/
def Task.Ends (style : IconStyle) (task : Task) : Prop :=
  ∀ s, ∃ calls o, Runs style task s calls o

/-- The sections of the task are sections of the source that is being expanded. -/
def Task.Within : Task → Prop
  | .source _ _ => True
  | .nodes text _ written => ∀ part ∈ sections written, NestedCall.Descends ⟨text, part.2⟩
  | .node text _ written => ∀ part ∈ written.sections, NestedCall.Descends ⟨text, part.2⟩
  | .items text _ written _ => ∀ part ∈ sections written, NestedCall.Descends ⟨text, part.2⟩

theorem within_of_parsed {source : Text} {template : Template} (h : parsed source = .ok template)
    (scope : Scope) : (Task.nodes source scope template).Within := fun _ hpart ↦
  ⟨infix_of_mem_sections (parsed_eq_ok_iff.mp h) hpart,
    length_lt_of_mem_sections (parsed_eq_ok_iff.mp h) hpart⟩

theorem descends_parameter {source body : Text} (h : NestedCall.Descends ⟨source, body⟩) :
    NestedCall.Descends ⟨source, (arguments body).2.2⟩ :=
  ⟨(infix_arguments body).trans h.1, (infix_arguments body).length_le.trans_lt h.2⟩

/-- **Every nested expansion is one of a shorter part of the source.** -/
theorem Runs.descends (h : Runs style task s calls o) (hwithin : task.Within) :
    ∀ call ∈ calls, call.Descends := by
  induction h with
  | fault | noNode | noItem | text | unset | value | hidden | string | icon | skip =>
    exact fun _ hcall ↦ absurd hcall List.not_mem_nil
  | template hparsed _ ih => exact ih (within_of_parsed hparsed _)
  | stop _ ih => exact ih fun part hpart ↦ hwithin part (List.mem_append_left _ hpart)
  | next _ _ ihnode ihrest =>
    exact List.forall_mem_append.mpr
      ⟨ihnode fun part hpart ↦ hwithin part (List.mem_append_left _ hpart),
        ihrest fun part hpart ↦ hwithin part (List.mem_append_right _ hpart)⟩
  | stopItem _ ih => exact ih hwithin
  | nextItem _ _ ihitem ihrest => exact List.forall_mem_append.mpr ⟨ihitem hwithin, ihrest hwithin⟩
  | shown _ _ _ ih => exact ih hwithin
  | parameter _ _ _ ih =>
    have hbody := hwithin _ List.mem_cons_self
    exact List.forall_mem_cons.mpr ⟨descends_parameter hbody, ih trivial⟩
  | script _ _ _ ih =>
    exact List.forall_mem_cons.mpr ⟨hwithin _ List.mem_cons_self, ih trivial⟩
  | each _ _ ih | enter _ _ ih =>
    exact ih fun part hpart ↦ hwithin part (List.mem_cons_of_mem _ hpart)

theorem ends_items {source : Text} {scope : Scope} {nodes : List Node}
    (h : ∀ item, (Task.nodes source (item :: scope) nodes).Ends style) (items : List Json) :
    (Task.items source scope nodes items).Ends style := by
  induction items with
  | nil => exact fun s ↦ ⟨_, _, .noItem⟩
  | cons item items ih =>
    intro s
    obtain ⟨calls, e | ⟨t, s'⟩, hitem⟩ := h item s
    · exact ⟨_, _, .stopItem hitem⟩
    · obtain ⟨calls', o, hrest⟩ := ih s'
      exact ⟨_, _, .nextItem hitem hrest⟩

mutual

theorem ends_node {source : Text}
    (hshorter : ∀ text scope, NestedCall.Descends ⟨source, text⟩ →
      (Task.source text scope).Ends style)
    (scope : Scope) :
    ∀ node : Node, (Task.node source scope node).Within → (Task.node source scope node).Ends style
  | .text t, _, s => ⟨_, _, .text t⟩
  | .variable name escaped, _, s => by
    cases hlookup : scope.lookup name with
    | none => exact ⟨_, _, .unset escaped hlookup⟩
    | some v => exact ⟨_, _, .value escaped hlookup⟩
  | .section name true body children, hwithin, s => by
    cases htruthy : ((scope.lookup name).map isTruthy).getD false with
    | true => exact ⟨_, _, .hidden body children htruthy⟩
    | false =>
      obtain ⟨calls, o, hchildren⟩ := ends_nodes hshorter scope children hwithin s
      exact ⟨_, _, .shown body htruthy hchildren⟩
  | .section name false body children, hwithin, s => by
    obtain ⟨hbody, hchildren⟩ := List.forall_mem_cons.mp hwithin
    cases htreatment : treatment name body scope with
    | string => exact ⟨_, _, .string children htreatment⟩
    | parameter =>
      obtain ⟨calls, o, hexpand⟩ := hshorter _ scope (descends_parameter hbody) s
      exact ⟨_, _, .parameter children htreatment hexpand⟩
    | icon => exact ⟨_, _, .icon children htreatment⟩
    | script =>
      obtain ⟨calls, o, hexpand⟩ := hshorter _ scope hbody s
      exact ⟨_, _, .script children htreatment hexpand⟩
    | each items =>
      obtain ⟨calls, o, hitems⟩ :=
        ends_items (fun item ↦ ends_nodes hshorter (item :: scope) children hchildren) items s
      exact ⟨_, _, .each htreatment hitems⟩
    | enter v =>
      obtain ⟨calls, o, hinner⟩ := ends_nodes hshorter (v :: scope) children hchildren s
      exact ⟨_, _, .enter htreatment hinner⟩
    | skip => exact ⟨_, _, .skip children htreatment⟩

theorem ends_nodes {source : Text}
    (hshorter : ∀ text scope, NestedCall.Descends ⟨source, text⟩ →
      (Task.source text scope).Ends style)
    (scope : Scope) : ∀ nodes : List Node, (Task.nodes source scope nodes).Within →
    (Task.nodes source scope nodes).Ends style
  | [], _, s => ⟨_, _, .noNode⟩
  | node :: rest, hwithin, s => by
    obtain ⟨hnode, hrest⟩ := List.forall_mem_append.mp hwithin
    obtain ⟨calls, e | ⟨t, s'⟩, hnode⟩ := ends_node hshorter scope node hnode s
    · exact ⟨_, _, .stop hnode⟩
    · obtain ⟨calls', o, hrest⟩ := ends_nodes hshorter scope rest hrest s'
      exact ⟨_, _, .next hnode hrest⟩

end

/-- Every source comes to an end, by induction on its length. -/
theorem ends_source (style : IconStyle) (source : Text) (scope : Scope) :
    (Task.source source scope).Ends style := by
  induction hn : source.length using Nat.strongRecOn generalizing source scope with
  | ind n ih =>
    subst hn
    intro s
    cases hparsed : parsed source with
    | error e => exact ⟨_, _, .fault hparsed⟩
    | ok template =>
      have hshorter (text : Text) (scope : Scope) (h : NestedCall.Descends ⟨source, text⟩) :
          (Task.source text scope).Ends style := ih text.length h.2 text scope rfl
      obtain ⟨calls, o, hnodes⟩ :=
        ends_nodes hshorter scope template (within_of_parsed hparsed scope) s
      exact ⟨_, _, .template hparsed hnodes⟩

/-- **An expansion ends.** Whatever is in the scope and has been collected before, the recursion
without a bound has one run on a source, and it comes to what `expandSource` comes to. Each of the
expansions that it makes on the way is one of a part of the source whose section is expanded, and of
a shorter one. -/
theorem exists_run_of_source (style : IconStyle) (source : Text) (scope : Scope) (s : Collected) :
    ∃ calls, (∀ calls' o, Runs style (.source source scope) s calls' o ↔
        calls' = calls ∧ o = (expandSource style source scope).run s) ∧
      ∀ call ∈ calls, call.text <:+: call.source ∧ call.text.length < call.source.length := by
  obtain ⟨calls, o, hruns⟩ := ends_source style source scope s
  refine ⟨calls, fun calls' o' ↦ ⟨fun hruns' ↦ ⟨hruns'.calls_eq hruns, hruns'.run_eq.symm⟩, ?_⟩,
    hruns.descends trivial⟩
  rintro ⟨rfl, rfl⟩
  exact hruns.run_eq ▸ hruns

end Expansion
end SiteClient
