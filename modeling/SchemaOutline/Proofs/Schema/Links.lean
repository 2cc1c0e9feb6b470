import SchemaOutline.Schema.Link

/-! The links of a schema, one sort at a time. -/

set_option autoImplicit false
set_option relaxedAutoImplicit false

namespace SchemaOutline

namespace Schema

/-- The link at a position of a schema, for each kind of schema. -/
inductive Leads : Schema → Nat → Link → Prop
  | name {annotations : Annotations} {fields : List (Field Schema)}
      {signatures : List (IndexSignature Schema)} {position : Nat} {field : Field Schema}
      {text : String} (here : fields[position]? = some field) (isName : field.key = .name text) :
      Leads (mk annotations (.struct fields signatures)) position
        ⟨some (.key text), field.annotations, field.type⟩
  | symbol {annotations : Annotations} {fields : List (Field Schema)}
      {signatures : List (IndexSignature Schema)} {position : Nat} {field : Field Schema}
      {text : String} (here : fields[position]? = some field)
      (isSymbol : field.key = .symbol text) :
      Leads (mk annotations (.struct fields signatures)) position
        ⟨some (.symbol text), field.annotations, field.type⟩
  | signature {annotations : Annotations} {fields : List (Field Schema)}
      {signatures : List (IndexSignature Schema)} {number : Nat}
      {signature : IndexSignature Schema} (here : signatures[number]? = some signature) :
      Leads (mk annotations (.struct fields signatures)) (fields.length + number)
        ⟨some (.index number), .empty, signature.type⟩
  | member {annotations : Annotations} {members : List Schema} {position : Nat} {member : Schema}
      (here : members[position]? = some member) :
      Leads (mk annotations (.union members)) position ⟨some (.union position), .empty, member⟩
  | element {annotations : Annotations} {elements rest : List (Element Schema)} {position : Nat}
      {element : Element Schema} (here : elements[position]? = some element) :
      Leads (mk annotations (.tuple elements rest)) position
        ⟨some (.tuple position), element.annotations, element.type⟩
  | rest {annotations : Annotations} {elements rest : List (Element Schema)} {number : Nat}
      {element : Element Schema} (here : rest[number]? = some element) :
      Leads (mk annotations (.tuple elements rest)) (elements.length + number)
        ⟨some (.rest number), element.annotations, element.type⟩
  | base {annotations : Annotations} {name : Option String} {base : Schema} :
      Leads (mk annotations (.refinement name base)) 0 ⟨none, .empty, base⟩
  | source {annotations : Annotations} {source target : Schema} :
      Leads (mk annotations (.transformation source target)) 0 ⟨some .source, .empty, source⟩
  | target {annotations : Annotations} {source target : Schema} :
      Leads (mk annotations (.transformation source target)) 1 ⟨some .target, .empty, target⟩
  | parameter {annotations : Annotations} {name : Option String} {parameters : List Schema}
      {position : Nat} {parameter : Schema} (here : parameters[position]? = some parameter) :
      Leads (mk annotations (.declaration name parameters)) position
        ⟨some (.typeParameter position), .empty, parameter⟩

private theorem getElem?_append_eq_some_iff {α : Type} {front back : List α} {position : Nat}
    {item : α} : (front ++ back)[position]? = some item ↔
      front[position]? = some item ∨
        ∃ number, position = front.length + number ∧ back[number]? = some item := by
  rcases Nat.lt_or_ge position front.length with inFront | inBack
  · rw [List.getElem?_append_left inFront]
    refine ⟨Or.inl, ?_⟩
    rintro (here | ⟨number, rfl, _⟩)
    · exact here
    · omega
  · rw [List.getElem?_append_right inBack]
    constructor
    · exact fun here => .inr ⟨position - front.length, by omega, here⟩
    · rintro (here | ⟨number, rfl, here⟩)
      · rw [List.getElem?_eq_none inBack] at here
        cases here
      · rwa [Nat.add_sub_cancel_left]

private theorem getElem?_numbered_eq_some_iff {segment : Nat → Segment} {targets : List Schema}
    {position : Nat} {link : Link} : (Link.numbered segment targets)[position]? = some link ↔
      ∃ target, targets[position]? = some target ∧
        ⟨some (segment position), .empty, target⟩ = link := by
  rw [Link.numbered, List.getElem?_mapIdx, Option.map_eq_some_iff]

private theorem getElem?_ofElements_eq_some_iff {segment : Nat → Segment}
    {elements : List (Element Schema)} {position : Nat} {link : Link} :
    (Link.ofElements segment elements)[position]? = some link ↔
      ∃ element, elements[position]? = some element ∧
        ⟨some (segment position), element.annotations, element.type⟩ = link := by
  rw [Link.ofElements, List.getElem?_mapIdx, Option.map_eq_some_iff]

private theorem leads_of_getElem?_links {schema : Schema} {position : Nat} {link : Link}
    (isLink : schema.links[position]? = some link) : schema.Leads position link := by
  obtain ⟨annotations, shape⟩ := schema
  rw [links, shape_mk] at isLink
  cases shape with
  | struct fields signatures =>
    rcases getElem?_append_eq_some_iff.mp isLink with inFields | ⟨number, rfl, inSignatures⟩
    · rw [List.getElem?_map, Option.map_eq_some_iff] at inFields
      obtain ⟨field, here, rfl⟩ := inFields
      cases isKey : field.key with
      | name text =>
        rw [Link.ofField, isKey]
        exact .name here isKey
      | symbol text =>
        rw [Link.ofField, isKey]
        exact .symbol here isKey
    · obtain ⟨target, isTarget, rfl⟩ := getElem?_numbered_eq_some_iff.mp inSignatures
      rw [List.getElem?_map, Option.map_eq_some_iff] at isTarget
      obtain ⟨signature, here, rfl⟩ := isTarget
      rw [List.length_map]
      exact .signature here
  | union members =>
    obtain ⟨member, here, rfl⟩ := getElem?_numbered_eq_some_iff.mp isLink
    exact .member here
  | tuple elements rest =>
    rcases getElem?_append_eq_some_iff.mp isLink with inElements | ⟨number, rfl, inRest⟩
    · obtain ⟨element, here, rfl⟩ := getElem?_ofElements_eq_some_iff.mp inElements
      exact .element here
    · obtain ⟨element, here, rfl⟩ := getElem?_ofElements_eq_some_iff.mp inRest
      rw [Link.ofElements, List.length_mapIdx]
      exact .rest here
  | refinement name base =>
    cases position with
    | zero =>
      obtain rfl := Option.some.inj isLink
      exact .base
    | succ position => cases isLink
  | transformation source target =>
    rcases position with _ | _ | position
    · obtain rfl := Option.some.inj isLink
      exact .source
    · obtain rfl := Option.some.inj isLink
      exact .target
    · cases isLink
  | declaration name parameters =>
    obtain ⟨parameter, here, rfl⟩ := getElem?_numbered_eq_some_iff.mp isLink
    exact .parameter here
  | suspend suspension => cases isLink
  | leaf content => cases isLink

/-- A schema has the links that its kind says, at the positions that its kind says. -/
theorem getElem?_links_eq_some_iff {schema : Schema} {position : Nat} {link : Link} :
    schema.links[position]? = some link ↔ schema.Leads position link := by
  refine ⟨leads_of_getElem?_links, fun leads => ?_⟩
  cases leads with
  | name here isName =>
    refine getElem?_append_eq_some_iff.mpr (.inl ?_)
    rw [List.getElem?_map, here, Option.map_some, Link.ofField, isName]
    rfl
  | symbol here isSymbol =>
    refine getElem?_append_eq_some_iff.mpr (.inl ?_)
    rw [List.getElem?_map, here, Option.map_some, Link.ofField, isSymbol]
    rfl
  | signature here =>
    refine getElem?_append_eq_some_iff.mpr (.inr ⟨_, by rw [List.length_map], ?_⟩)
    exact getElem?_numbered_eq_some_iff.mpr ⟨_, by rw [List.getElem?_map, here]; rfl, rfl⟩
  | member here => exact getElem?_numbered_eq_some_iff.mpr ⟨_, here, rfl⟩
  | element here =>
    refine getElem?_append_eq_some_iff.mpr (.inl ?_)
    exact getElem?_ofElements_eq_some_iff.mpr ⟨_, here, rfl⟩
  | rest here =>
    refine getElem?_append_eq_some_iff.mpr
      (.inr ⟨_, by rw [Link.ofElements, List.length_mapIdx], ?_⟩)
    exact getElem?_ofElements_eq_some_iff.mpr ⟨_, here, rfl⟩
  | base => rfl
  | source => rfl
  | target => rfl
  | parameter here => exact getElem?_numbered_eq_some_iff.mpr ⟨_, here, rfl⟩

theorem segment_eq_none_iff {schema : Schema} {position : Nat} {link : Link}
    (leads : schema.Leads position link) : link.segment = none ↔ schema.kind = .refinement := by
  cases leads <;> simp [kind, Shape.kind]

end Schema

end SchemaOutline
