import ProfileFilter.Proofs.Compile.Carried
import ProfileFilter.Proofs.Compile.Completeness
import ProfileFilter.Service.Directory

/-!
# How discovered lists are addressed

A list of the account becomes an attribute whose name is `data`, the list separator, and
the name of the list. A condition may name it so, or as it is shown, with dots for the
separators. The compiler puts a separator in place of every dot of a condition's field:
that leads from the shown name back to the attribute, and leaves its own name alone, as
long as the list's own name has no dot.

With a dot in it the two part. `listFieldName` then changes the attribute's own name, so a
condition is sent for a name the account does not have, and the shown name no longer leads
to the attribute, so the items are compiled without its schema.

Main statement: `compileFilter_listAttribute`.
-/

namespace ProfileFilter

/-! ## Dots and separators -/

theorem Text.replace_eq_map (t : Text) (old new : CodePoint) :
    t.replace old [new] = t.map fun c => if c == old then new else c := by
  rw [replace, List.map_eq_flatMap]
  congr 1
  funext c
  split_ifs <;> rfl

theorem dot_notMem_listFieldName (t : Text) : ('.' : CodePoint) ∉ listFieldName t := by
  rw [listFieldName, Text.replace_eq_map]
  intro hmem
  obtain ⟨c, -, hc⟩ := List.mem_map.mp hmem
  split_ifs at hc with hdot
  · exact absurd hc (by decide)
  · exact hdot (beq_iff_eq.mpr hc)

theorem separator_notMem_displayFieldName (t : Text) : listSeparator ∉ displayFieldName t := by
  show listSeparator ∉ t.replace listSeparator ['.']
  rw [Text.replace_eq_map]
  intro hmem
  obtain ⟨c, -, hc⟩ := List.mem_map.mp hmem
  split_ifs at hc with hsep
  · exact absurd hc (by decide)
  · exact hsep (beq_iff_eq.mpr hc)

/-- The address of a name is the name itself exactly if it has no dot. -/
theorem listFieldName_eq_self_iff {t : Text} : listFieldName t = t ↔ ('.' : CodePoint) ∉ t := by
  constructor
  · intro h
    rw [← h]
    exact dot_notMem_listFieldName t
  · intro h
    rw [listFieldName, Text.replace_eq_map]
    refine (List.map_congr_left fun c hc => if_neg ?_).trans t.map_id
    rintro hdot
    exact h (beq_iff_eq.mp hdot ▸ hc)

/-- A name without dots is the address of what it is shown as. -/
theorem listFieldName_displayFieldName {t : Text} (h : ('.' : CodePoint) ∉ t) :
    listFieldName (displayFieldName t) = t := by
  show Text.replace (t.replace listSeparator ['.']) '.' [listSeparator] = t
  rw [Text.replace_eq_map, Text.replace_eq_map, List.map_map]
  refine (List.map_congr_left fun c hc => ?_).trans t.map_id
  have hdot : c ≠ '.' := fun heq => h (heq ▸ hc)
  by_cases hsep : c = listSeparator
  · simp [hsep]
  · simp [hsep, hdot]

/-! ## Finding the attribute -/

namespace Attribute

theorem named?_singleton_self (a : Attribute) : named? a.name [a] = some a := by
  simp [named?]

theorem named?_singleton_of_ne {a : Attribute} {name : Text} (h : a.name ≠ name) :
    named? name [a] = none := by
  simp [named?, h]

end Attribute

/-- A name of its own leads to an attribute. -/
theorem resolveAttribute?_name (a : Attribute) : resolveAttribute? [a] a.name = some a := by
  rw [resolveAttribute?, Attribute.named?_singleton_self]

/-- A field leads to an attribute by the attribute's name, or by being a spelling of it. -/
theorem name_of_resolveAttribute? {attributes : List Attribute} {field : Text} {a : Attribute}
    (h : resolveAttribute? attributes field = some a) :
    a.name = field ∨ a.name = listFieldName field := by
  rw [resolveAttribute?] at h
  split at h
  · next b hb =>
    rw [← Option.some.inj h]
    exact .inl (Attribute.eq_of_named?_eq_some hb).2
  · split_ifs at h
    exact .inr (Attribute.eq_of_named?_eq_some h).2

/-- **The shown name leads back to a list attribute exactly if the name has no dot.** -/
theorem resolveAttribute?_displayFieldName {a : Attribute} (h : listSeparator ∈ a.name) :
    resolveAttribute? [a] (displayFieldName a.name) = some a ↔ ('.' : CodePoint) ∉ a.name := by
  have hne : a.name ≠ displayFieldName a.name := by
    intro heq
    rw [heq] at h
    exact separator_notMem_displayFieldName a.name h
  have hdotted : (displayFieldName a.name).contains '.' = true := by
    show (a.name.replace listSeparator ['.']).contains '.' = true
    rw [Text.replace_eq_map, List.contains_iff_mem]
    exact List.mem_map.mpr ⟨listSeparator, h, rfl⟩
  rw [resolveAttribute?, Attribute.named?_singleton_of_ne hne]
  simp only [hdotted, if_true]
  constructor
  · intro hfound
    rw [(Attribute.eq_of_named?_eq_some hfound).2]
    exact dot_notMem_listFieldName _
  · intro hdot
    rw [listFieldName_displayFieldName hdot, Attribute.named?_singleton_self]

/-! ## List conditions -/

namespace Condition

variable {attributes : List Attribute} {c : Condition} {node : Value}

/-- A complete condition with a sendable node compiles to that node. -/
theorem exists_compileFilter_one (logic : Logic) (hcomplete : c.isComplete attributes = true)
    (hnode : c.node? attributes = some node) (hsend : isSendable node = .ok true) :
    ∃ compiled, compileFilter attributes { conditions := [c], logic } = .ok compiled ∧
      compiled.node = some node := by
  obtain ⟨key, v, rfl⟩ := exists_node?_eq_single hnode
  have hsendable : Clause.IsSendable ⟨single key v, c.explanation attributes⟩ :=
    ⟨⟨key, v, rfl⟩, isSendable_single_eq_ok_true.mp hsend⟩
  have hclause : c.clause? attributes = .ok (some ⟨single key v, c.explanation attributes⟩) :=
    clause?_eq_ok_some_iff.mpr ⟨hcomplete, hnode, hsendable, rfl⟩
  obtain ⟨raw, -, -, -, hassemble⟩ := assemble_of_isSendable logic (List.cons_ne_nil _ [])
    (List.forall_mem_singleton.mpr hsendable)
  exact ⟨_, compileFilter_one_eq_ok_iff.mpr ⟨_, hclause, hassemble⟩, rfl⟩

end Condition

/-- **A condition that leads to a list attribute** is compiled under the address of its field,
with the types of the attribute's schema. -/
theorem exists_compileFilter_of_list {a : Attribute} {c : Condition} {node : Value}
    (logic : Logic) (hfound : resolveAttribute? [a] c.field = some a) (hlist : a.type = .list)
    (htype : c.fieldType = none) (hschema : c.schema.getD [] = []) (hfield : c.field ≠ [])
    (hitems : c.completeItems ≠ []) (hnode : c.node? [a] = some node)
    (hsend : isSendable node = .ok true) :
    ∃ compiled nodes, compileFilter [a] { conditions := [c], logic } = .ok compiled ∧
      compiled.node = some (single c.listMode.key (single (listFieldName c.field)
        (single c.listLogic.key (.list nodes)))) ∧
      List.Forall₂ (fun item node => item.IsNode ((a.schema.getD []).lookup item.field) node)
        c.completeItems nodes := by
  have htyped : c.isList [a] = true := by
    refine decide_eq_true ?_
    rw [Condition.resolvedType_of_some hfound, htype, hlist]
    rfl
  have hresolved : c.resolvedSchema [a] = a.schema.getD [] := by
    rw [Condition.resolvedSchema_of_some hfound, hschema]
    rfl
  obtain ⟨compiled, hcompiled, hroot⟩ := Condition.exists_compileFilter_one logic
    ((Condition.isComplete_iff_of_isList htyped).mpr ⟨hfield, hitems⟩) hnode hsend
  rw [Condition.node?_of_isList htyped] at hnode
  rw [Condition.listNode?_eq hnode] at hroot
  have hnodes := Condition.forall₂_isNode [a] c
  rw [hresolved] at hroot hnodes
  exact ⟨compiled, _, hcompiled, hroot, hnodes⟩

/-! ## Discovered lists -/

/-- A list with a name becomes a list attribute that is named after it. -/
theorem Directory.exists_listAttribute_eq_valid {item : Entries} {name : Text}
    (h : Value.get "name" item = .text name) :
    ∃ a, listAttribute item = .valid a ∧ a.name = "data" ++ listSeparator :: name ∧
      a.type = .list := by
  rw [listAttribute, displayName, h]
  exact ⟨_, rfl, rfl, rfl⟩

theorem dot_notMem_listName {name : Text} :
    ('.' : CodePoint) ∉ ("data" ++ listSeparator :: name : Text) ↔ ('.' : CodePoint) ∉ name := by
  rw [List.mem_append, List.mem_cons, not_or, not_or]
  have hdata : ('.' : CodePoint) ∉ ("data" : Text) := by decide
  have hseparator : ('.' : CodePoint) ≠ listSeparator := by decide
  exact ⟨fun h => h.2.2, fun h => ⟨hdata, hseparator, h⟩⟩

/-- **How a discovered list is addressed.** A condition without a type and a schema of its own
that names a discovered list by the name of its attribute, or by the name it is shown under
if the list's name has no dot, is compiled under the address of that name, with the values
of its items made to fit the list's schema. The address is the attribute's name, and the
shown name leads to the attribute, exactly if the list's name has no dot. -/
theorem compileFilter_listAttribute {item : Entries} {name : Text}
    (hname : Value.get "name" item = .text name) :
    ∃ a, Directory.listAttribute item = .valid a ∧
      (listFieldName a.name = a.name ↔ ('.' : CodePoint) ∉ name) ∧
      (resolveAttribute? [a] (displayFieldName a.name) = some a ↔ ('.' : CodePoint) ∉ name) ∧
      ∀ (c : Condition) (logic : Logic) (node : Value),
        c.fieldType = none → c.schema.getD [] = [] →
        (c.field = a.name ∨ ('.' : CodePoint) ∉ name ∧ c.field = displayFieldName a.name) →
        c.completeItems ≠ [] → c.node? [a] = some node → isSendable node = .ok true →
        ∃ compiled nodes, compileFilter [a] { conditions := [c], logic } = .ok compiled ∧
          compiled.node = some (single c.listMode.key (single (listFieldName a.name)
            (single c.listLogic.key (.list nodes)))) ∧
          List.Forall₂ (fun item node => item.IsNode ((a.schema.getD []).lookup item.field) node)
            c.completeItems nodes := by
  obtain ⟨a, ha, haname, hlist⟩ := Directory.exists_listAttribute_eq_valid hname
  have hdots : ('.' : CodePoint) ∉ a.name ↔ ('.' : CodePoint) ∉ name := by
    rw [haname, dot_notMem_listName]
  have hseparator : listSeparator ∈ a.name := by
    rw [haname]
    exact List.mem_append_right _ List.mem_cons_self
  refine ⟨a, ha, listFieldName_eq_self_iff.trans hdots,
    (resolveAttribute?_displayFieldName hseparator).trans hdots, ?_⟩
  intro c logic node htype hschema hspelled hitems hnode hsend
  -- both spellings lead to the attribute, and have the same address
  obtain ⟨hfound, haddress⟩ : resolveAttribute? [a] c.field = some a ∧
      listFieldName c.field = listFieldName a.name := by
    rcases hspelled with hfield | ⟨hdot, hfield⟩
    · rw [hfield]
      exact ⟨resolveAttribute?_name a, rfl⟩
    · have hplain := hdots.mpr hdot
      rw [hfield, listFieldName_displayFieldName hplain, listFieldName_eq_self_iff.mpr hplain]
      exact ⟨(resolveAttribute?_displayFieldName hseparator).mpr hplain, rfl⟩
  have hfield : c.field ≠ [] := by
    intro hnil
    rw [hnil] at hfound
    rcases name_of_resolveAttribute? hfound with hname | hname
    · rw [hname] at hseparator
      cases hseparator
    · rw [hname] at hseparator
      cases hseparator
  rw [← haddress]
  exact exists_compileFilter_of_list logic hfound hlist htype hschema hfield hitems hnode hsend

/-- A list of the account with its schema, the identifier of its items included. -/
def listItem (name : Text) : Entries :=
  [(.text "name", .text name),
    (.text "schema", .record [("__id", .text "STRING"),
      ("quantity", .record [("type", .text "INTEGER")])])]

/-- The attribute of that list. -/
def listItemAttribute (name : Text) : Attribute where
  name := "data" ++ listSeparator :: name
  type := .list
  isCustom := true
  displayName := some name
  schema := some [("quantity", .integer)]

/-- A condition on the items of a list. -/
def quantityCondition (field : Text) : Condition where
  field
  listMode := .all
  listConditions := some [{ field := "quantity", operator := some "in", value := .text "1, 2" }]

/-- The node of that condition on the list at an address, with the given values. -/
def quantityNode (address : Text) (values : List Value) : Value :=
  single "#all" (single address (single "#and"
    (.list [single "#in" (single "quantity" (.list values))])))

theorem compileFilter_listAttribute_orders :
    ∃ compiled nodes, Directory.listAttribute (listItem "Orders") =
        .valid (listItemAttribute "Orders") ∧
      compileFilter [listItemAttribute "Orders"]
        { conditions := [quantityCondition "data.Orders"] } = .ok compiled ∧
      compiled.node = some (single "#all" (single (listItemAttribute "Orders").name
        (single "#and" (.list nodes)))) ∧
      List.Forall₂ (fun item node => item.IsNode
          (((listItemAttribute "Orders").schema.getD []).lookup item.field) node)
        (quantityCondition "data.Orders").completeItems nodes := by
  have hvalid : Directory.listAttribute (listItem "Orders") =
      .valid (listItemAttribute "Orders") := by
    rfl
  have hname : Value.get "name" (listItem "Orders") = .text "Orders" := rfl
  obtain ⟨a, ha, haddress, -, hcompiles⟩ := compileFilter_listAttribute hname
  obtain rfl : a = listItemAttribute "Orders" := by
    rw [ha] at hvalid
    exact Validated.valid.inj hvalid
  have hdot : ('.' : CodePoint) ∉ ("Orders" : Text) := by decide
  have hfield : ("data.Orders" : Text) = displayFieldName (listItemAttribute "Orders").name := by
    decide
  have hnode : (quantityCondition "data.Orders").node? [listItemAttribute "Orders"] =
      some (quantityNode (listItemAttribute "Orders").name [.int 1, .int 2]) := by
    decide +kernel
  have hsend : isSendable (quantityNode (listItemAttribute "Orders").name [.int 1, .int 2]) =
      .ok true := by
    rfl
  have hitems : (quantityCondition "data.Orders").completeItems ≠ [] := by
    decide
  obtain ⟨compiled, nodes, hcompiled, hroot, hnodes⟩ :=
    hcompiles (quantityCondition "data.Orders") .and _ rfl rfl (.inr ⟨hdot, hfield⟩) hitems hnode
      hsend
  rw [haddress.mpr hdot] at hroot
  exact ⟨compiled, nodes, hvalid, hcompiled, hroot, hnodes⟩

/-- **A dot in a list's name is lost.** The condition on the attribute's own name is sent for
another one, and the condition on the shown name is compiled without the schema. -/
theorem compileFilter_listAttribute_dotted :
    Directory.listAttribute (listItem "my.list") = .valid (listItemAttribute "my.list") ∧
      (compileFilter [listItemAttribute "my.list"]
        { conditions := [quantityCondition (listItemAttribute "my.list").name] }).toOption.map
          CompiledFilter.node =
        some (some (quantityNode (listItemAttribute "my\x01list").name [.int 1, .int 2])) ∧
      (compileFilter [listItemAttribute "my.list"]
        { conditions := [quantityCondition "data.my.list"] }).toOption.map CompiledFilter.node =
        some (some (quantityNode (listItemAttribute "my\x01list").name [.text "1", .text "2"])) ∧
      (listItemAttribute "my\x01list").name ≠ (listItemAttribute "my.list").name := by
  refine ⟨rfl, ?_, ?_, ?_⟩
  · decide +kernel
  · decide +kernel
  · decide

end ProfileFilter
