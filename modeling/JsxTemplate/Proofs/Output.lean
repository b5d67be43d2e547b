import JsxTemplate.Compile.Source
import JsxTemplate.Proofs.Nesting
import JsxTemplate.Proofs.Comments
import JsxTemplate.Proofs.Slots

/-
  The output read as a source. It is code throughout: each element has become a template literal,
  whose slots hold code that closes what it opens (`Buffer.Good`), and the code between the elements
  is copied as it was before (`Copied`). So nothing is left to compile, and the output is its own
  output (`parse_transformSource`). The one thing that can go wrong is a callee that ends in a line
  comment, and sources without two slashes have no line comments.
-/

namespace JsxTemplate

/-! ## Compiled nodes -/

section Inversion

variable {options : Options} {node found : Node} {nodes compiled : List Node} {element : Element}
  {callee : Text}

theorem compileNodes_eq_ok (h : compileNodes options (node :: nodes) = .ok compiled) :
    ∃ first others, compileNode options node = .ok first ∧
      compileNodes options nodes = .ok others ∧ compiled = first :: others := by
  unfold compileNodes at h
  obtain ⟨first, hfirst, h⟩ := bind_eq_ok h
  obtain ⟨others, hothers, h⟩ := bind_eq_ok h
  cases h
  exact ⟨first, others, hfirst, hothers, rfl⟩

theorem compileNode_markup (h : compileNode options (.markup element) = .ok found) :
    ∃ buffer template, compileElement options element = .ok buffer ∧
      buffer.materialize = .ok template ∧ found = .template template := by
  unfold compileNode at h
  obtain ⟨buffer, hbuffer, h⟩ := bind_eq_ok h
  obtain ⟨template, htemplate, h⟩ := bind_eq_ok h
  cases h
  exact ⟨buffer, template, hbuffer, htemplate, rfl⟩

theorem compileNode_call (h : compileNode options (.call callee element) = .ok found) :
    ∃ buffer template, compileElement options element = .ok buffer ∧
      buffer.materialize = .ok template ∧ found = .tagged callee template := by
  unfold compileNode at h
  obtain ⟨buffer, hbuffer, h⟩ := bind_eq_ok h
  obtain ⟨template, htemplate, h⟩ := bind_eq_ok h
  cases h
  exact ⟨buffer, template, hbuffer, htemplate, rfl⟩

end Inversion

/-- Code without markup compiles to itself. -/
theorem compileNodes_plain (options : Options) : ∀ {nodes : List Node},
    nodes.any Node.isMarkup = false → compileNodes options nodes = .ok nodes
  | [], _ => by rw [compileNodes]
  | node :: nodes, h => by
    rw [List.any_cons, Bool.or_eq_false_iff] at h
    have hnode : compileNode options node = .ok node := by
      cases node with
      | markup element => cases h.1
      | call callee element => cases h.1
      | _ => rw [compileNode]
    rw [compileNodes, hnode, compileNodes_plain options h.2]
    rfl

/-- Leaving out what needs no compiling makes no difference. -/
theorem unlessPlain_compileNodes (options : Options) (nodes : List Node) :
    unlessPlain nodes (compileNodes options nodes) = compileNodes options nodes := by
  unfold unlessPlain
  split
  · rfl
  next h =>
    rw [compileNodes_plain options]
    exact Bool.eq_false_iff.2 h

mutual

/-- Where an element stands does not matter to what it compiles to. -/
theorem compileElement_unplaced (options : Options) : ∀ element : Element,
    compileElement options element.unplaced = compileElement options element
  | ⟨tag, attributes, children, selfClosing, closing, span⟩ => by
    rw [Element.unplaced, compileElement, compileElement, compileAttributes_unplaced,
      compileChildren_unplaced]

theorem compileAttributes_unplaced (options : Options) : ∀ (attributes : List Attribute)
    (buffer : Buffer), compileAttributes options buffer (attributesUnplaced attributes) =
      compileAttributes options buffer attributes
  | [], _ => rfl
  | a :: attributes, buffer => by
    rw [attributesUnplaced, compileAttributes, compileAttributes, compileAttribute_unplaced]
    simp only [compileAttributes_unplaced options attributes]

theorem compileAttribute_unplaced (options : Options) : ∀ (a : Attribute) (buffer : Buffer),
    compileAttribute options buffer a.unplaced = compileAttribute options buffer a
  | .literal _ _, _ => rfl
  | .hole name nodes, buffer => by
    rw [Attribute.unplaced, compileAttribute, compileAttribute, unlessPlain_compileNodes,
      unlessPlain_compileNodes, compileNodes_unplaced]
  | .bare _, _ => rfl

theorem compileChildren_unplaced (options : Options) : ∀ (children : List Child) (buffer : Buffer),
    compileChildren options buffer (childrenUnplaced children) =
      compileChildren options buffer children
  | [], _ => rfl
  | child :: children, buffer => by
    rw [childrenUnplaced, compileChildren, compileChildren, compileChild_unplaced]
    simp only [compileChildren_unplaced options children]

theorem compileChild_unplaced (options : Options) : ∀ (child : Child) (buffer : Buffer),
    compileChild options buffer child.unplaced = compileChild options buffer child
  | .element element, buffer => by
    rw [Child.unplaced, compileChild, compileChild, compileElement_unplaced]
  | .text _, _ => rfl
  | .hole nodes, buffer => by
    rw [Child.unplaced, compileChild, compileChild, unlessPlain_compileNodes,
      unlessPlain_compileNodes, compileNodes_unplaced]

theorem compileNode_unplaced (options : Options) : ∀ node : Node,
    compileNode options node.unplaced = compileNode options node
  | .code _ => rfl
  | .markup element => by
    rw [Node.unplaced, compileNode, compileNode, compileElement_unplaced]
  | .call callee element => by
    rw [Node.unplaced, compileNode, compileNode, compileElement_unplaced]
  | .template _ => rfl
  | .tagged _ _ => rfl

theorem compileNodes_unplaced (options : Options) : ∀ nodes : List Node,
    compileNodes options (nodesUnplaced nodes) = compileNodes options nodes
  | [] => rfl
  | node :: nodes => by
    rw [nodesUnplaced, compileNodes, compileNodes, compileNode_unplaced, compileNodes_unplaced]

end

/-- Compiled nodes begin as the nodes are spelled, or with a template. -/
theorem follows_compiled {options : Options} {close : Option Char} {lexer : Lexer} {draft : Draft}
    {nodes compiled : List Node} {text rest rest' : Text}
    (h : nodesSpelled close lexer draft nodes text)
    (hcompiled : compileNodes options nodes = .ok compiled)
    (hrest : rest'.head? = rest.head?) :
    Lexer.Follows (text ++ rest) (nodesSource compiled ++ rest') := by
  cases nodes with
  | nil =>
    unfold nodesSpelled at h
    unfold compileNodes at hcompiled
    cases hcompiled
    rw [h.2, nodesSource]
    exact .inl hrest
  | cons node nodes =>
    obtain ⟨first, others, hfirst, -, rfl⟩ := compileNodes_eq_ok hcompiled
    unfold nodesSource
    cases node with
    | code own =>
      unfold nodesSpelled at h
      obtain ⟨hne, -, -, -, -, rfl⟩ := h
      unfold compileNode at hfirst
      cases hfirst
      obtain ⟨c, inner, rfl⟩ := List.exists_cons_of_ne_nil hne
      exact .inl rfl
    | markup element =>
      obtain ⟨buffer, template, -, -, rfl⟩ := compileNode_markup hfirst
      exact .inr rfl
    | call callee element =>
      unfold nodesSpelled at h
      obtain ⟨before, behind, own, blanks, behindCall, -, -, -, -, -, -, -, hpending, -, rfl⟩ := h
      obtain ⟨buffer, template, -, -, rfl⟩ := compileNode_call hfirst
      obtain ⟨c, name, hname, -⟩ := Callee.ofPending?_head hpending
      have hname : callee = c :: name := hname
      rw [hname]
      exact .inl rfl
    | template _ =>
      unfold nodesSpelled at h
      exact h.elim
    | tagged _ _ =>
      unfold nodesSpelled at h
      exact h.elim

/-- The text is copied to its end, where the code may end too. -/
def Copied (close : Option Char) (base : List Nat) (lexer : Lexer) (out : Draft)
    (text rest : Text) : Prop :=
  Lexer.Copies none (lexer.lift base) out text rest ∧
    ∃ final : Lexer, final.Ends close ∧ (lexer.lift base).after text = final.lift base

/-- A stretch that leads from one lexer to another, and what is copied from there. -/
theorem Copied.append {close : Option Char} {base : List Nat} {lexer lexer' : Lexer} {out : Draft}
    {s t rest : Text} (hs : (lexer.lift base).Copies none out s (t ++ rest))
    (hafter : (lexer.lift base).after s = lexer'.lift base)
    (h : Copied close base lexer' (out.pushAll s) t rest) :
    Copied close base lexer out (s ++ t) rest := by
  obtain ⟨hcopies, final, hends, hfinal⟩ := h
  refine ⟨Lexer.copies_append.2 ⟨hs, hafter ▸ hcopies⟩, final, hends, ?_⟩
  rw [Lexer.after_append, hafter, hfinal]

/-- What is copied behind an opening brace, up to the closing one, may stand in a slot. -/
theorem isSlot_of_copied {code : Text}
    (h : ∀ (base : List Nat) (out : Draft) (rest : Text), base ≠ [] → out.Shadows .empty →
      Copied (some '}') base .initial out code ('}' :: rest)) : IsSlot code := by
  intro depth outer draft rest hbrace
  obtain ⟨hcopies, final, ⟨hcode, houter, hdepth⟩, hfinal⟩ :=
    h (depth :: outer) draft rest (by simp) (.of_brace hbrace)
  have hlift : final.lift (depth :: outer) = ⟨final.mode, 0, depth :: outer⟩ := by
    rw [Lexer.lift, houter, hdepth rfl]
    rfl
  have hfinal : Lexer.after ⟨.code, 0, depth :: outer⟩ code = ⟨final.mode, 0, depth :: outer⟩ :=
    hfinal.trans hlift
  have hcode : Lexer.AtCode ⟨final.mode, 0, depth :: outer⟩ ('}' :: rest) := hcode
  rw [hfinal, Lexer.step_of_atCode hcode]
  refine ⟨hcopies, rfl, fun draft => ⟨?_, ?_, ?_⟩⟩
  · rintro - ⟨houter, -⟩
    cases houter
  · intro _ hlt
    cases hlt
  · intro quote hquote
    have hquote : final.mode = .string quote := hquote
    exact absurd hcode (by simp [Lexer.AtCode, hquote])

/-! ## Compiled elements -/

theorem Buffer.good_closingBuffer (closing : Option Text) : (closingBuffer closing).Good := by
  cases closing with
  | none => exact good_empty
  | some tag => exact good_empty.addLiteral _

mutual

theorem Element.Spelled.good {options : Options} : ∀ {element : Element} {own : Text}
    {buffer : Buffer}, element.Spelled own → element.uncommented = true →
    compileElement options element = .ok buffer → buffer.Good
  | ⟨tag, attributes, children, selfClosing, closing, span⟩, own, buffer, h, hun, hcompile => by
    unfold Element.Spelled at h
    obtain ⟨-, -, inside, hinside, h⟩ := h
    rw [Element.uncommented, Bool.and_eq_true] at hun
    unfold compileElement at hcompile
    obtain ⟨opening, hopening, hcompile⟩ := bind_eq_ok hcompile
    have hgood := attributesSpelled_good hinside hun.1 (Buffer.good_empty.addLiteral _) hopening
    cases selfClosing with
    | true => exact (hgood.addLiteral _).concat (Buffer.good_closingBuffer closing) hcompile
    | false =>
      obtain ⟨-, text, htext, -⟩ := h
      obtain ⟨content, hcontent, hcompile⟩ := bind_eq_ok hcompile
      obtain ⟨filled, hfilled, hcompile⟩ := bind_eq_ok hcompile
      have hgood' := childrenSpelled_good htext hun.2 Buffer.good_empty hcontent
      exact ((hgood.addLiteral _).concat hgood' hfilled).concat
        (Buffer.good_closingBuffer closing) hcompile

theorem attributesSpelled_good {options : Options} : ∀ {attributes : List Attribute} {named : Bool}
    {inside : Text} {buffer result : Buffer}, attributesSpelled named attributes inside →
    attributesUncommented attributes = true → buffer.Good →
    compileAttributes options buffer attributes = .ok result → result.Good
  | [], named, inside, buffer, result, _, _, hgood, hcompile => by
    unfold compileAttributes at hcompile
    cases hcompile
    exact hgood
  | a :: attributes, named, inside, buffer, result, h, hun, hgood, hcompile => by
    unfold attributesSpelled at h
    obtain ⟨blanks, own, rest, -, -, hown, hrest, -⟩ := h
    rw [attributesUncommented, Bool.and_eq_true] at hun
    unfold compileAttributes at hcompile
    obtain ⟨next, hnext, hcompile⟩ := bind_eq_ok hcompile
    exact attributesSpelled_good hrest hun.2 (hown.good hun.1 hgood hnext) hcompile

theorem Attribute.Spelled.good {options : Options} : ∀ {a : Attribute} {own : Text}
    {buffer result : Buffer}, a.Spelled own → a.uncommented = true → buffer.Good →
    compileAttribute options buffer a = .ok result → result.Good
  | .literal name raw, own, buffer, result, _, _, hgood, hcompile => by
    unfold compileAttribute at hcompile
    cases hcompile
    exact hgood.addLiteral _
  | .hole name nodes, own, buffer, result, h, hun, hgood, hcompile => by
    unfold Attribute.Spelled at h
    obtain ⟨-, before, behind, code, -, -, hcode, -⟩ := h
    unfold Attribute.uncommented at hun
    rw [compileAttribute, unlessPlain_compileNodes] at hcompile
    obtain ⟨compiled, hcompiled, hcompile⟩ := bind_eq_ok hcompile
    cases hcompile
    have hslot : IsSlot (nodesSource compiled) :=
      isSlot_of_copied fun base out rest hbase hshadows => nodesSpelled_copied hcode
        Lexer.proper_initial hun hcompiled hshadows (fun _ => rfl) rfl
    exact ((hgood.addLiteral _).addExpression hslot).addLiteral _
  | .bare name, own, buffer, result, _, _, hgood, hcompile => by
    unfold compileAttribute at hcompile
    cases hcompile
    exact hgood.addLiteral _

theorem childrenSpelled_good {options : Options} : ∀ {children : List Child} {tag : Text}
    {texted : Bool} {content : Text} {buffer result : Buffer},
    childrenSpelled tag texted children content → childrenUncommented children = true →
    buffer.Good → compileChildren options buffer children = .ok result → result.Good
  | [], tag, texted, content, buffer, result, _, _, hgood, hcompile => by
    unfold compileChildren at hcompile
    cases hcompile
    exact hgood
  | .element element :: children, tag, texted, content, buffer, result, h, hun, hgood,
      hcompile => by
    unfold childrenSpelled at h
    obtain ⟨own, rest, hown, hrest, -⟩ := h
    rw [childrenUncommented, Bool.and_eq_true, Child.uncommented] at hun
    rw [compileChildren, compileChild] at hcompile
    obtain ⟨next, hnext, hcompile⟩ := bind_eq_ok hcompile
    obtain ⟨inner, hinner, hnext⟩ := bind_eq_ok hnext
    exact childrenSpelled_good hrest hun.2 (hgood.concat (hown.good hun.1 hinner) hnext) hcompile
  | .text own :: children, tag, texted, content, buffer, result, h, hun, hgood, hcompile => by
    unfold childrenSpelled at h
    obtain ⟨-, -, -, rest, hrest, -⟩ := h
    rw [childrenUncommented, Bool.and_eq_true] at hun
    rw [compileChildren, compileChild] at hcompile
    exact childrenSpelled_good hrest hun.2 (hgood.addLiteral _) hcompile
  | .hole nodes :: children, tag, texted, content, buffer, result, h, hun, hgood, hcompile => by
    unfold childrenSpelled at h
    obtain ⟨code, rest, hcode, hrest, -⟩ := h
    rw [childrenUncommented, Bool.and_eq_true, Child.uncommented] at hun
    rw [compileChildren, compileChild, unlessPlain_compileNodes] at hcompile
    obtain ⟨next, hnext, hcompile⟩ := bind_eq_ok hcompile
    obtain ⟨compiled, hcompiled, hnext⟩ := bind_eq_ok hnext
    cases hnext
    have hslot : IsSlot (nodesSource compiled) :=
      isSlot_of_copied fun base out rest hbase hshadows => nodesSpelled_copied hcode
        Lexer.proper_initial hun.1 hcompiled hshadows (fun _ => rfl) rfl
    exact childrenSpelled_good hrest hun.2 (hgood.addExpression hslot) hcompile

/-- Compiled nodes are copied whole where the nodes were read. -/
theorem nodesSpelled_copied {options : Options} : ∀ {nodes compiled : List Node}
    {close : Option Char} {base : List Nat} {lexer : Lexer} {draft out : Draft} {text rest : Text},
    nodesSpelled close lexer draft nodes text → lexer.Proper → nodesUncommented lexer nodes = true →
    compileNodes options nodes = .ok compiled → out.Shadows draft → (base ≠ [] → close = some '}') →
    rest.head? = close → Copied close base lexer out (nodesSource compiled) rest
  | [], compiled, close, base, lexer, draft, out, text, rest, h, _, _, hcompile, _, _, _ => by
    unfold nodesSpelled at h
    unfold compileNodes at hcompile
    cases hcompile
    unfold nodesSource
    exact ⟨trivial, lexer, h.1, rfl⟩
  | .code own :: nodes, compiled, close, base, lexer, draft, out, text, rest, h, hproper, hun,
      hcompile, hshadows, hbase, hrest => by
    unfold nodesSpelled at h
    obtain ⟨-, -, tail, hcopies, htail, -⟩ := h
    unfold nodesUncommented at hun
    obtain ⟨first, others, hfirst, hothers, rfl⟩ := compileNodes_eq_ok hcompile
    unfold compileNode at hfirst
    cases hfirst
    have hfollows : Lexer.Follows (tail ++ close.toList) (nodesSource others ++ rest) :=
      follows_compiled htail hothers (by cases close <;> exact hrest)
    obtain ⟨hown, hafter⟩ := hcopies.lift hshadows hbase hfollows
    rw [nodesSource, Node.toSource]
    exact .append hown hafter (nodesSpelled_copied htail (hproper.after own) hun hothers
      (hshadows.pushAll own) hbase hrest)
  | .markup element :: nodes, compiled, close, base, lexer, draft, out, text, rest, h, hproper, hun,
      hcompile, hshadows, hbase, hrest => by
    unfold nodesSpelled at h
    obtain ⟨own, tail, hown, hcode, -, -, htail, -⟩ := h
    rw [nodesUncommented, Bool.and_eq_true] at hun
    obtain ⟨first, others, hfirst, hothers, rfl⟩ := compileNodes_eq_ok hcompile
    obtain ⟨buffer, template, hbuffer, htemplate, rfl⟩ := compileNode_markup hfirst
    have hopen : (lexer.lift base).Open := by
      obtain ⟨c, inner, rfl, -⟩ := hown.head
      exact Lexer.open_of_atCode hcode (by decide)
    obtain ⟨hcopies, hafter⟩ := (hown.good hun.1 hbuffer).copies_template htemplate hopen out
      (nodesSource others ++ rest)
    have hafter : (lexer.lift base).after template.toSource = lexer.inCode.lift base := hafter
    rw [nodesSource, Node.toSource]
    exact .append hcopies hafter
      (nodesSpelled_copied htail (Lexer.proper_inCode lexer) hun.2 hothers (.of_template ..) hbase
        hrest)
  | .call callee element :: nodes, compiled, close, base, lexer, draft, out, text, rest, h, hproper,
      hun, hcompile, hshadows, hbase, hrest => by
    unfold nodesSpelled at h
    obtain ⟨before, behind, own, blanks, tail, hbefore, hbehind, -, hown, hcopies, hcode, -, -,
      htail, -⟩ := h
    simp only [nodesUncommented, Bool.and_eq_true, bne_iff_ne] at hun
    obtain ⟨⟨hline, hel⟩, hun⟩ := hun
    obtain ⟨first, others, hfirst, hothers, rfl⟩ := compileNodes_eq_ok hcompile
    obtain ⟨buffer, template, hbuffer, htemplate, rfl⟩ := compileNode_call hfirst
    -- Only the callee stays; behind it the template takes the place of the parentheses.
    have hopen := open_of_uncommented hproper hbefore hbehind hcode hline
    rw [leaveCall_after hopen hbefore hbehind] at htail
    rw [List.append_assoc, Lexer.copies_append] at hcopies
    have hfollows : Lexer.Follows (before ++ '(' :: behind ++ own)
        (template.toSource ++ nodesSource others ++ rest) := .inr rfl
    obtain ⟨hcallee, hbehindCallee⟩ := hcopies.1.lift hshadows hbase hfollows
    have hopen : ((lexer.after callee).lift base).Open := hopen
    obtain ⟨hcopies, hafter⟩ := (hown.good hel hbuffer).copies_template htemplate hopen
      (out.pushAll callee) (nodesSource others ++ rest)
    have hafter : ((lexer.after callee).lift base).after template.toSource =
        (lexer.after callee).inCode.lift base := hafter
    rw [nodesSource, Node.toSource, List.append_assoc]
    exact .append hcallee hbehindCallee (.append hcopies hafter (nodesSpelled_copied htail
      (Lexer.proper_inCode _) hun hothers (.of_template ..) hbase hrest))
  | .template _ :: nodes, _, _, _, _, _, _, _, _, h, _, _, _, _, _, _ => by
    unfold nodesSpelled at h
    exact h.elim
  | .tagged _ _ :: nodes, _, _, _, _, _, _, _, _, h, _, _, _, _, _, _ => by
    unfold nodesSpelled at h
    exact h.elim

end

/-! ## The output -/

/-- An output is the print of what the source reads as, compiled. -/
theorem transformSource_eq_ok_iff {overrides : Overrides} {source output : Text} :
    transformSource overrides source = .ok output ↔
      ∃ program compiled, parse source = .ok program ∧
        compileNodes (.merge overrides) program = .ok compiled ∧ output = nodesSource compiled := by
  unfold transformSource
  constructor
  · intro h
    obtain ⟨program, hprogram, h⟩ := bind_eq_ok h
    obtain ⟨compiled, hcompiled, h⟩ := bind_eq_ok h
    cases h
    refine ⟨program, compiled, ?_, ?_, rfl⟩
    · cases hparse : parse source with
      | error error => rw [hparse] at hprogram; cases hprogram
      | ok found => rw [hparse] at hprogram; cases hprogram; rfl
    · cases htransform : transform (.merge overrides) program with
      | error error => rw [htransform] at hcompiled; cases hcompiled
      | ok found => rw [htransform] at hcompiled; cases hcompiled; exact htransform
  · rintro ⟨program, compiled, hparse, hcompiled, rfl⟩
    have htransform : transform (.merge overrides) program = .ok compiled := hcompiled
    rw [hparse]
    show ((transform (.merge overrides) program).mapError TransformError.compile >>= _) = _
    rw [htransform]
    rfl

theorem codeNodes_plain (text : Text) : (codeNodes text).any Node.isMarkup = false := by
  unfold codeNodes
  split <;> rfl

theorem nodesSource_codeNodes (text : Text) : nodesSource (codeNodes text) = text := by
  unfold codeNodes
  split
  next h => rw [nodesSource, List.isEmpty_iff.1 h]
  next => rw [nodesSource, nodesSource, Node.toSource, List.append_nil]

/-- Only elements have places. -/
theorem eq_of_unplaced_plain : ∀ {found nodes : List Node}, nodes.any Node.isMarkup = false →
    nodesUnplaced found = nodesUnplaced nodes → found = nodes
  | [], [], _, _ => rfl
  | node :: found, other :: nodes, hplain, h => by
    rw [List.any_cons, Bool.or_eq_false_iff] at hplain
    rw [nodesUnplaced, nodesUnplaced, List.cons.injEq] at h
    have hnode : node = other := by
      cases other with
      | markup element => cases hplain.1
      | call callee element => cases hplain.1
      | _ => cases node <;> simp_all [Node.unplaced]
    rw [hnode, eq_of_unplaced_plain hplain.2 h.2]

/-- Compiled and printed, an expression without commented callees is spelled as one run of code. -/
theorem codeNodes_spelled_of_compiled {options : Options} {program : Expression}
    {compiled : List Node} {source : Text} (h : program.Spelled source)
    (hun : program.uncommented = true) (hcompiled : compileNodes options program = .ok compiled) :
    Expression.Spelled (codeNodes (nodesSource compiled)) (nodesSource compiled) := by
  have hshadows : Draft.empty.Shadows .empty := ⟨[], rfl, .inr ⟨rfl, rfl⟩⟩
  have hcopied : Copied none [] .initial .empty (nodesSource compiled) [] :=
    nodesSpelled_copied h Lexer.proper_initial hun hcompiled hshadows (fun h => absurd rfl h) rfl
  obtain ⟨hcopies, final, hends, hfinal⟩ := hcopied
  rw [Lexer.lift_nil] at hcopies
  rw [Lexer.lift_nil, Lexer.lift_nil] at hfinal
  have hnodes : nodesSpelled none (Lexer.initial.after (nodesSource compiled))
      (Draft.empty.pushAll (nodesSource compiled)) [] [] := by
    rw [nodesSpelled, hfinal]
    exact ⟨hends, rfl⟩
  have hspelled := nodesSpelled_codeNodes hcopies hnodes
  rw [List.append_nil, List.append_nil] at hspelled
  exact hspelled

/-- The output for a source without two slashes is one run of code, in which every template literal
and every slot closes where it should; compiled again, whatever the options, it stays as it is. -/
theorem parse_transformSource {overrides : Overrides} {source output : Text}
    (hno : ¬ source.HasDoubleSlash) (h : transformSource overrides source = .ok output) :
    parse output = .ok (codeNodes output) ∧
      ∀ others : Overrides, transformSource others output = .ok output := by
  obtain ⟨program, compiled, hparse, hcompiled, rfl⟩ := transformSource_eq_ok_iff.1 h
  have hspelled := spelled_of_parse hparse
  have hun : program.uncommented = true :=
    nodesSpelled_uncommented_of_quiet hspelled Lexer.proper_initial (Lexer.quiet_initial source) hno
  obtain ⟨found, hfound, hunplaced⟩ :=
    parse_of_spelled (codeNodes_spelled_of_compiled hspelled hun hcompiled)
  rw [eq_of_unplaced_plain (codeNodes_plain _) hunplaced] at hfound
  refine ⟨hfound, ?_⟩
  intro others
  exact transformSource_eq_ok_iff.2
    ⟨_, _, hfound, compileNodes_plain _ (codeNodes_plain _), (nodesSource_codeNodes _).symm⟩

/-- A call, a backtick in a text, and a slot in a slot. -/
theorem parse_transformSource_nested :
    ∃ output : Text, transformSource .empty
        "f (<a b=\x7bx\x7d>`\x7bc ? <i/> : `$\x7bg(<b/>)\x7d`\x7d</a>)".toList = .ok output ∧
      output = "f`<a b=\"$\x7bx\x7d\">\\`$\x7bc ? `<i/>` : `$\x7bg`<b/>`\x7d`\x7d</a>`".toList ∧
      parse output = .ok (codeNodes output) ∧
      ∀ others : Overrides, transformSource others output = .ok output := by
  have hoption : (transformSource .empty
      "f (<a b=\x7bx\x7d>`\x7bc ? <i/> : `$\x7bg(<b/>)\x7d`\x7d</a>)".toList).toOption =
        some "f`<a b=\"$\x7bx\x7d\">\\`$\x7bc ? `<i/>` : `$\x7bg`<b/>`\x7d`\x7d</a>`".toList := by
    decide +kernel
  cases h : transformSource .empty
      "f (<a b=\x7bx\x7d>`\x7bc ? <i/> : `$\x7bg(<b/>)\x7d`\x7d</a>)".toList with
  | error error => rw [h] at hoption; cases hoption
  | ok output =>
    rw [h] at hoption
    have hno : ¬ Text.HasDoubleSlash
        "f (<a b=\x7bx\x7d>`\x7bc ? <i/> : `$\x7bg(<b/>)\x7d`\x7d</a>)".toList := by
      unfold Text.HasDoubleSlash
      decide +kernel
    exact ⟨output, rfl, Option.some.inj hoption, parse_transformSource hno h⟩

end JsxTemplate
