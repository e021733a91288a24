import ScopeGen.Proofs.Json.Hole
import ScopeGen.Proofs.Json.Places
import ScopeGen.Proofs.Json.Results

/-!
# Proofs/Json/Checked — scopes are checked wherever they stand

    {"name":"A","members":[{"name":"m","value":{"Annotation":
      {"name":"B","members":[],"kind":{"Member":▢}}}}],"kind":"Other"}

Each place of a scope in a value is a hole in what is written for the value.  Whatever text is
written there, the reading of the whole comes to what the reading of that text alone comes to, the
scope that it names or what is wrong with it: what stands before the place is read, and what stands
around it passes the refusal on (`Around`, with one lemma for each step on the path).
-/

namespace ScopeGen

open Json Source

/-! ## One step on the path -/

/-- The hole is what is written around an open scope, and whatever text is written there decides
what the reading comes to.  Readers are given with their levels, of which no more than so many are
needed. -/
structure Around {α : Type} (write : α → Json) (read : Nat → Draft → Except Refusal α)
    (fill : Scope → α) (hole : Hole) : Prop where
  json (scope : Scope) : hole.fill scope.toJson = write (fill scope)
  reads (text : String) {n k : Nat} : n ≤ Draft.nestingLimit → n ≤ k →
    Reads n (read k) (hole.fill (.str text)) (fill <$> (Scope.ofString text).mapError .scope)

/-- What is written for a value is read, with as many levels as it is deep. -/
def Found {α : Type} (write : α → Json) (read : Nat → Draft → Except Refusal α) : Prop :=
  ∀ (a : α) {n k : Nat}, n ≤ Draft.nestingLimit → n ≤ k → Reads n (read k) (write a) (.ok a)

section

variable {α : Type} {write : α → Json} {read : Nat → Draft → Except Refusal α}

/-- What is read back from each of its spellings is read back from what is written. -/
theorem Found.of_givesBack {outline : α → Outline} (hjson : ∀ a, (outline a).json = write a)
    (h : ∀ a {n k : Nat}, n ≤ Draft.nestingLimit → n ≤ k → GivesBack n (read k) (outline a) a) :
    Found write read := fun a n k hn hk => by
  rw [← hjson]
  exact (h a hn hk).reads

/-- More levels than any text has are enough. -/
theorem Found.most (h : Found write read) :
    Found write fun _ => read (Draft.nestingLimit + 1) :=
  fun a _ _ hn _ => h a hn (Nat.le_succ_of_le hn)

/-- A list of what is read is read. -/
theorem Found.list (h : Found write read) :
    Found (fun as : List α => .arr (as.map write)) fun k => listOf (read k) :=
  fun as n k hn hk => by
    rw [← mapM_id_ok as]
    exact reads_listOf (forall₂_reads (fun a => h a hn hk) as)

variable {fill : Scope → α} {hole : Hole}

/-- They are enough around a hole too. -/
theorem Around.most (h : Around write read fill hole) :
    Around write (fun _ => read (Draft.nestingLimit + 1)) fill hole where
  json := h.json
  reads text _ _ hn _ := h.reads text hn (Nat.le_succ_of_le hn)

/-- One item of a list. -/
theorem Around.list (h : Around write read fill hole) (hfound : Found write read)
    (before after : List α) :
    Around (fun as : List α => .arr (as.map write)) (fun k => listOf (read k))
      (fun scope => before ++ fill scope :: after)
      (.item (before.map write) hole (after.map write)) where
  json scope := by
    rw [Hole.fill, h.json, List.map_append, List.map_cons]
  reads text n k hn hk := by
    have hlist := (h.reads text hn hk).listOf (fun a => hfound a hn hk) before after
    rwa [Functor.map_map] at hlist

variable {β : Type} {write' : β → Json} {read' : Nat → Draft → Except Refusal β}

/-- One entry of an object. -/
theorem Around.entry (h : Around write read fill hole) (f : α → β) {before : List (String × Json)}
    {key : String} {after : List (String × Json)}
    (hjson : ∀ a, .obj (before ++ (key, write a) :: after) = write' (f a))
    (hreads : ∀ {n k : Nat} {j : Json} {result : Except Refusal α},
      n ≤ Draft.nestingLimit → n ≤ k → Reads n (read k) j result →
        Reads n (read' k) (.obj (before ++ (key, j) :: after)) (f <$> result)) :
    Around write' read' (fun scope => f (fill scope)) (.entry before key hole after) where
  json scope := by rw [Hole.fill, h.json, hjson]
  reads text n k hn hk := by
    have hentry := hreads hn hk (h.reads text hn hk)
    rwa [Functor.map_map] at hentry

end

theorem reads_strs {n : Nat} (texts : List String) :
    Reads n (listOf Source.text) (.strs texts) (.ok texts) := by
  rw [← Outline.json_strs]
  exact (givesBack_strs texts).reads

/-! ## Annotations -/

/-- An open scope is the hole itself, and the check of names decides. -/
theorem Scope.around : Around Scope.toJson (fun _ => Source.scope) (fun scope => scope) .here where
  json _ := rfl
  reads text _ _ _ _ := by
    rw [id_map']
    exact reads_scope text

/-- A scope in a marker stands one level inside, under the name of the alternative. -/
theorem Marker.around_member :
    Around Marker.toJson (fun _ => Marker.read) Marker.member (.entry [] "Member" .here []) :=
  Scope.around.entry Marker.member (fun _ => rfl) fun _ _ h =>
    ((h.map Marker.member).filled rfl).mono (Nat.le_succ _)

theorem Marker.around_initializer :
    Around Marker.toJson (fun _ => Marker.read) Marker.initializer
      (.entry [] "Initializer" .here []) :=
  Scope.around.entry Marker.initializer (fun _ => rfl) fun _ _ h =>
    ((h.map Marker.initializer).filled rfl).mono (Nat.le_succ _)

/-- What stands beside a hole is found: markers, members, annotations and values, each from what is
written for it. -/
theorem Marker.found : Found Marker.toJson fun _ => Marker.read :=
  .of_givesBack Marker.json_outline fun marker _ _ _ _ => marker.givesBack

theorem Member.found : Found Member.toJson fun k => Member.readWith (Value.readLevels k) :=
  .of_givesBack Member.json_outline fun member _ k _ hk =>
    (Member.givesBack_readWith (Value.givesBack_readLevels k) member).mono hk

theorem Annot.found : Found Annot.toJson fun k => Annot.readWith (Value.readLevels k) :=
  .of_givesBack Annot.json_outline fun a _ k _ hk =>
    (Annot.givesBack_readWith (Value.givesBack_readLevels k) a).mono hk

theorem Value.found : Found Value.toJson Value.readLevels :=
  .of_givesBack Value.json_outline fun v _ k _ hk => (Value.givesBack_readLevels k v).mono hk

/-- What is written for an annotation, with its members as a list. -/
theorem Annot.toJson_eq (a : Annot) :
    a.toJson = .obj [("name", .str a.name), ("members", .arr (a.members.map Member.toJson)),
      ("kind", a.marker.toJson)] := by
  cases a
  rw [Annot.toJson, Member.toJsons_eq_map]

section

variable {hole : Hole}

/-- A hole in the marker of an annotation: the members before it are read first. -/
theorem Annot.around_marker {fill : Scope → Marker}
    (h : Around Marker.toJson (fun _ => Marker.read) fill hole) (a : Annot) :
    Around Annot.toJson (fun k => Annot.readWith (Value.readLevels k))
      (fun scope => { a with marker := fill scope })
      (.entry [("name", .str a.name), ("members", .arr (a.members.map Member.toJson))] "kind"
        hole []) :=
  h.entry (fun marker => { a with marker }) (fun marker => (Annot.toJson_eq { a with marker }).symm)
    fun {n k j result} hn hk hmarker => Entry.reads_record
      [.of "name" .never (givesBack_text a.name).reads _,
        .of "members" .always (Member.found.list a.members hn hk) _,
        .of "kind" .always hmarker _] (by simp) (by cases result <;> rfl)

/-- A hole among the members of an annotation: the marker behind it is not read if it is refused. -/
theorem Annot.around_members {fill : Scope → List Member}
    (h : Around (fun members : List Member => .arr (members.map Member.toJson))
      (fun k => listOf (Member.readWith (Value.readLevels k))) fill hole) (a : Annot) :
    Around Annot.toJson (fun k => Annot.readWith (Value.readLevels k))
      (fun scope => { a with members := fill scope })
      (.entry [("name", .str a.name)] "members" hole [("kind", a.marker.toJson)]) :=
  h.entry (fun members => { a with members })
    (fun members => (Annot.toJson_eq { a with members }).symm)
    fun {n k j result} hn hk hmembers => Entry.reads_record
      [.of "name" .never (givesBack_text a.name).reads _,
        .of "members" .always hmembers _,
        .of "kind" .always (Marker.found a.marker hn hk) _] (by simp) (by cases result <;> rfl)

/-- A hole in the value of a member. -/
theorem Member.around_value {fill : Scope → Value}
    (h : Around Value.toJson Value.readLevels fill hole) (name : String) :
    Around Member.toJson (fun k => Member.readWith (Value.readLevels k))
      (fun scope => ⟨name, fill scope⟩) (.entry [("name", .str name)] "value" hole []) :=
  h.entry (Member.mk name) (fun value => by rw [Member.toJson]; rfl)
    fun {n k j result} hn hk hvalue => Entry.reads_record
      [.of "name" .never (givesBack_text name).reads _, .of "value" .never hvalue _]
      (by simp) (by cases result <;> rfl)

/-- An alternative for a value takes one level of its reader. -/
theorem Value.around_of_lookup {α : Type} {write : α → Json}
    {read : Nat → Draft → Except Refusal α} {fill : Scope → α} {name sort : String} {f : α → Value}
    (h : Around write read fill hole) (hjson : ∀ a, (f a).toJson = .obj [(name, write a)])
    (hlookup : ∀ k, (Value.cases (Value.readLevels k)).lookup name =
      some (.filled sort fun d => f <$> read k d)) :
    Around Value.toJson Value.readLevels (fun scope => f (fill scope))
      (.entry [] name hole []) where
  json scope := by
    rw [Hole.fill, h.json, hjson]
    rfl
  reads text n k hn hk := by
    cases n with
    | zero => exact reads_zero _
    | succ n =>
      cases k with
      | zero => exact absurd hk (Nat.not_succ_le_zero n)
      | succ k =>
        have hcontent := h.reads text (Nat.le_of_succ_le hn) (Nat.le_of_succ_le_succ hk)
        have hvalue := (hcontent.map f).filled (hlookup k)
        rwa [Functor.map_map] at hvalue

/-- A hole in an annotation that a value is. -/
theorem Value.around_annot {fill : Scope → Annot}
    (h : Around Annot.toJson (fun k => Annot.readWith (Value.readLevels k)) fill hole) :
    Around Value.toJson Value.readLevels (fun scope => .annot (fill scope))
      (.entry [] "Annotation" hole []) :=
  Value.around_of_lookup h (fun a => by rw [Value.toJson]) fun _ => rfl

/-- A hole among the items of a list. -/
theorem Value.around_list {fill : Scope → List Value}
    (h : Around (fun items : List Value => .arr (items.map Value.toJson))
      (fun k => listOf (Value.readLevels k)) fill hole) :
    Around Value.toJson Value.readLevels (fun scope => .list (fill scope))
      (.entry [] "List" hole []) :=
  Value.around_of_lookup h (fun items => by rw [Value.toJson, Value.toJsons_eq_map]) fun _ => rfl

end

/-! ## Classes -/

/-- What stands beside a hole in a class: methods, with the signatures and overrides around them. -/
theorem Method.found : Found Method.toJson fun _ => Method.read :=
  .of_givesBack Method.json_outline fun m _ _ hn _ => m.givesBack.mono hn

theorem Signature.found : Found Signature.toJson fun _ => Signature.read :=
  .of_givesBack Signature.json_outline fun _ _ _ _ _ => givesBack _

theorem Override.found : Found Override.toJson fun _ => Override.read :=
  .of_givesBack Override.json_outline fun _ _ _ _ _ => givesBack _

section

variable {hole : Hole}

/-- A hole among the annotations on a method. -/
theorem Method.around_annotations {fill : Scope → List Annot}
    (h : Around (fun annotations : List Annot => .arr (annotations.map Annot.toJson))
      (fun _ => listOf Annot.read) fill hole) (m : Method) :
    Around Method.toJson (fun _ => Method.read) (fun scope => { m with annotations := fill scope })
      (.entry [("signature", m.signature.toJson)] "annotations" hole []) :=
  h.entry (fun annotations => { m with annotations }) (fun _ => rfl)
    fun {n k j result} hn hk hannotations => Entry.reads_record
    [.of "signature" .never (Signature.found m.signature hn hk) _,
      .of "annotations" .always hannotations _] (by simp) (by cases result <;> rfl)

/-- A hole among the methods of a class: the annotations on the class are read after it. -/
theorem ClassDecl.around_methods {fill : Scope → List Method}
    (h : Around (fun methods : List Method => .arr (methods.map Method.toJson))
      (fun _ => listOf Method.read) fill hole) (cls : ClassDecl) :
    Around ClassDecl.toJson (fun _ => ClassDecl.read)
      (fun scope => { cls with methods := fill scope })
      (.entry [("name", .str cls.name)] "members" hole
        [("scope_annotations", .arr (cls.annotations.map Annot.toJson))]) :=
  h.entry (fun methods => { cls with methods }) (fun _ => rfl)
    fun {n k j result} hn hk hmethods => Entry.reads_record
    [.of "name" .never (givesBack_text cls.name).reads _,
      .of "members" .always hmethods _,
      .of "scope_annotations" .always (Annot.found.most.list cls.annotations hn hk) _]
    (by simp) (by cases result <;> rfl)

/-- A hole among the annotations on a class: all methods are read before it. -/
theorem ClassDecl.around_annotations {fill : Scope → List Annot}
    (h : Around (fun annotations : List Annot => .arr (annotations.map Annot.toJson))
      (fun _ => listOf Annot.read) fill hole) (cls : ClassDecl) :
    Around ClassDecl.toJson (fun _ => ClassDecl.read)
      (fun scope => { cls with annotations := fill scope })
      (.entry [("name", .str cls.name), ("members", .arr (cls.methods.map Method.toJson))]
        "scope_annotations" hole []) :=
  h.entry (fun annotations => { cls with annotations }) (fun _ => rfl)
    fun {n k j result} hn hk hannotations => Entry.reads_record
    [.of "name" .never (givesBack_text cls.name).reads _,
      .of "members" .always (Method.found.list cls.methods hn hk) _,
      .of "scope_annotations" .always hannotations _]
    (by simp) (by cases result <;> rfl)

/-- A hole among the annotations on a generated class: the methods are read after it. -/
theorem Subclass.around_annotations {fill : Scope → List Annot}
    (h : Around (fun annotations : List Annot => .arr (annotations.map Annot.toJson))
      (fun _ => listOf Annot.read) fill hole) (sub : Subclass) :
    Around Subclass.toJson (fun _ => Subclass.read)
      (fun scope => { sub with annotations := fill scope })
      (.entry [("name", .str sub.name), ("package_name", .str sub.package),
          ("superclass_name", .str sub.superclass), ("doc", sub.doc.elim .null .str),
          ("modifiers", .strs sub.modifiers)]
        "class_annotations" hole [("methods", .arr (sub.methods.map Override.toJson))]) :=
  h.entry (fun annotations => { sub with annotations }) (fun _ => rfl)
    fun {n k j result} hn hk hannotations => Entry.reads_record
    [.of "name" .never (givesBack_text sub.name).reads _,
      .of "package_name" .never (givesBack_text sub.package).reads _,
      .of "superclass_name" .never (givesBack_text sub.superclass).reads _,
      .of "doc" .named (givesBack_optionText sub.doc).reads _,
      .of "modifiers" .never (reads_strs sub.modifiers) _,
      .of "class_annotations" .never hannotations _,
      .of "methods" .never (Override.found.list sub.methods hn hk) _]
    (by simp) (by cases result <;> rfl)

end

/-! ## All places -/

/-- The reader of a type, with so many levels for the values in it. -/
def Schema.readLevels : (s : Schema) → Nat → Draft → Except Refusal s.Carrier
  | value, k => Value.readLevels k
  | member, k => Member.readWith (Value.readLevels k)
  | annot, k => Annot.readWith (Value.readLevels k)
  | s, _ => s.read

/-- With more levels than any text has, it is the reader of the type. -/
theorem Schema.readLevels_eq_read (s : Schema) :
    s.readLevels (Draft.nestingLimit + 1) = s.read := by
  cases s <;> rfl

/-- **Each place is a hole in what is written**, and what is read there decides the reading. -/
theorem Place.exists_around {s : Schema} {fill : Scope → s.Carrier} (h : Place s fill) :
    ∃ hole, Around s.toJson s.readLevels fill hole := by
  induction h with
  | here => exact ⟨_, Scope.around⟩
  | member => exact ⟨_, Marker.around_member⟩
  | initializer => exact ⟨_, Marker.around_initializer⟩
  | kind a _ ih =>
    obtain ⟨hole, h⟩ := ih
    exact ⟨_, Annot.around_marker h a⟩
  | among a before after _ ih =>
    obtain ⟨hole, h⟩ := ih
    exact ⟨_, Annot.around_members (h.list Member.found before after) a⟩
  | held name _ ih =>
    obtain ⟨hole, h⟩ := ih
    exact ⟨_, Member.around_value h name⟩
  | nested _ ih =>
    obtain ⟨hole, h⟩ := ih
    exact ⟨_, Value.around_annot h⟩
  | item before after _ ih =>
    obtain ⟨hole, h⟩ := ih
    exact ⟨_, Value.around_list (h.list Value.found before after)⟩
  | applied m before after _ ih =>
    obtain ⟨hole, h⟩ := ih
    exact ⟨_, Method.around_annotations (h.most.list Annot.found.most before after) m⟩
  | declared cls before after _ ih =>
    obtain ⟨hole, h⟩ := ih
    exact ⟨_, ClassDecl.around_methods (h.list Method.found before after) cls⟩
  | listing cls before after _ ih =>
    obtain ⟨hole, h⟩ := ih
    exact ⟨_, ClassDecl.around_annotations (h.most.list Annot.found.most before after) cls⟩
  | copied sub before after _ ih =>
    obtain ⟨hole, h⟩ := ih
    exact ⟨_, Subclass.around_annotations (h.most.list Annot.found.most before after) sub⟩

/-- What is written with a text in a place is read as far as that text names a scope. -/
theorem Around.decode_render {s : Schema} {fill : Scope → s.Carrier} {hole : Hole}
    (h : Around s.toJson s.readLevels fill hole) {scope : Scope}
    (hdepth : (s.toJson (fill scope)).depth ≤ Draft.nestingLimit) (text : String) :
    decode s.read (render (hole.fill (.str text))) =
      fill <$> (Scope.ofString text).mapError .scope := by
  have hfill : (hole.fill (.str text)).depth = (hole.fill scope.toJson).depth :=
    hole.depth_fill rfl
  rw [h.json] at hfill
  rw [Json.decode_render, ← s.readLevels_eq_read]
  exact h.reads text (Nat.le_refl _) (Nat.le_succ _) _ (Nat.le_refl _) (hfill ▸ hdepth)

/-! ## What is wrong with a text -/

/-- The characters of names, told one by one. -/
theorem isScopeChar_iff {c : Char} : isScopeChar c ↔ c = '_' ∨ isAlphanumeric c := by
  simp [isScopeChar, or_comm]

/-- A text names a scope when it is not empty and all its characters may stand in a name. -/
theorem Scope.exists_ofString_eq_ok_iff {text : String} :
    (∃ scope, ofString text = .ok scope) ↔
      text ≠ "" ∧ ∀ c ∈ text.toList, c = '_' ∨ isAlphanumeric c := by
  simp only [← isScopeChar_iff]
  constructor
  · rintro ⟨scope, h⟩
    obtain rfl := ofString_eq_ok_iff.1 h
    exact scope.valid
  · exact fun hvalid => ⟨⟨text, hvalid⟩, ofString_eq_ok_iff.2 rfl⟩

/-- An error is told of the whole text and the first character that may not stand in it. -/
theorem Scope.message_of_ofString {text : String} {e : Error} (h : ofString text = .error e) :
    text = "" ∧ e.message = "Scope name must not be empty" ∨
      ∃ front c rest, text.toList = front ++ c :: rest ∧
        (∀ d ∈ front, d = '_' ∨ isAlphanumeric d) ∧ ¬(c = '_' ∨ isAlphanumeric c) ∧
        e.message = "Invalid character '" ++ c.toString ++ "' in scope name '" ++ text ++
          "': only letters, digits and '_' are allowed" := by
  cases e with
  | empty => exact .inl ⟨ofString_eq_empty_iff.1 h, rfl⟩
  | invalidCharacter name c =>
    obtain ⟨rfl, hfind⟩ := ofString_eq_invalidCharacter_iff.1 h
    obtain ⟨hc, front, rest, htext, hfront⟩ := List.find?_eq_some_iff_append.1 hfind
    simp only [Bool.not_not, ← isScopeChar_iff] at hc hfront ⊢
    exact .inr ⟨front, c, rest, htext, hfront, by simpa using hc, rfl⟩

namespace Schema

/-- **Scopes are checked wherever they stand.**  Of a value that is read, take one of the scopes in
it and write any text in its place.  Such a text is read just when it names a scope, as the value
with that scope instead; otherwise it is refused, in the words in which the text by itself is. -/
theorem decode_scopeText (s : Schema) (v : s.Carrier) (left : List Scope) (scope : Scope)
    (right : List Scope) (hscopes : s.scopes v = left ++ scope :: right)
    (hdepth : (s.toJson v).depth ≤ Draft.nestingLimit) :
    ∃ (fill : Scope → s.Carrier) (before after : String), fill scope = v ∧
      (∀ other : Scope, s.scopes (fill other) = left ++ other :: right ∧
        s.write (fill other) = before ++ render (.str other.name) ++ after) ∧
      ∀ text : String,
        ((∃ w, decode s.read (before ++ render (.str text) ++ after) = .ok w) ↔
          text ≠ "" ∧ ∀ c ∈ text.toList, c = '_' ∨ isAlphanumeric c) ∧
        (∀ w, decode s.read (before ++ render (.str text) ++ after) = .ok w →
          ∃ other : Scope, other.name = text ∧ w = fill other) ∧
        ∀ refusal, decode s.read (before ++ render (.str text) ++ after) = .error refusal →
          ∃ e, Scope.ofString text = .error e ∧ refusal.message? = some e.message ∧
            (text = "" ∧ e.message = "Scope name must not be empty" ∨
              ∃ front c rest, text.toList = front ++ c :: rest ∧
                (∀ d ∈ front, d = '_' ∨ isAlphanumeric d) ∧ ¬(c = '_' ∨ isAlphanumeric c) ∧
                e.message = "Invalid character '" ++ c.toString ++ "' in scope name '" ++ text ++
                  "': only letters, digits and '_' are allowed") := by
  obtain ⟨fill, hplace, rfl, hfill⟩ := s.placed v left scope right hscopes
  obtain ⟨hole, haround⟩ := hplace.exists_around
  obtain ⟨before, after, hrender⟩ := hole.exists_render_fill
  refine ⟨fill, before, after, rfl, fun other => ⟨hfill other, ?_⟩, fun text => ?_⟩
  · rw [write, ← haround.json, hrender]
    rfl
  · rw [← hrender, haround.decode_render hdepth text, ← Scope.exists_ofString_eq_ok_iff]
    cases h : Scope.ofString text with
    | ok other =>
      have hname : other.name = text := Scope.ofString_eq_ok_iff.1 h
      refine ⟨⟨fun _ => ⟨other, rfl⟩, fun _ => ⟨fill other, rfl⟩⟩,
        fun w hw => ⟨other, hname, (Except.ok.inj hw).symm⟩, fun refusal hrefusal => ?_⟩
      cases hrefusal
    | error e =>
      refine ⟨⟨?_, ?_⟩, fun w hw => ?_, fun refusal hrefusal => ?_⟩
      · rintro ⟨w, hw⟩
        cases hw
      · rintro ⟨other, hother⟩
        cases hother
      · cases hw
      · obtain rfl : Refusal.scope e = refusal := Except.error.inj hrefusal
        exact ⟨e, rfl, rfl, Scope.message_of_ofString h⟩

/-- A scope around another one. -/
def outerScope : Scope := ⟨"Outer", by decide, List.all_eq_true.mp (by decide)⟩

/-- A scope inside another one. -/
def innerScope : Scope := ⟨"Inner", by decide, List.all_eq_true.mp (by decide)⟩

/-- A scope to be written instead. -/
def otherScope : Scope := ⟨"Other", by decide, List.all_eq_true.mp (by decide)⟩

/-- An annotation of one scope that holds a list with an annotation of another. -/
def nestedAnnot : Annot :=
  ⟨"A", [⟨"m", .list [.bool true, .annot ⟨"B", [], .initializer innerScope⟩]⟩],
    .member outerScope⟩

theorem decode_nestedAnnot :
    Schema.annot.scopes nestedAnnot = [] ++ innerScope :: [outerScope] ∧
    (Schema.annot.toJson nestedAnnot).depth ≤ Draft.nestingLimit ∧
    ∃ before after : String,
      Schema.annot.write nestedAnnot = before ++ render (.str "Inner") ++ after ∧
      (∃ w, decode Schema.annot.read (before ++ render (.str "Other") ++ after) = .ok w ∧
        (Schema.annot.scopes w).map Scope.name = ["Other", "Outer"]) ∧
      ∃ refusal, decode Schema.annot.read (before ++ render (.str "In-1") ++ after) =
          .error refusal ∧
        refusal.message? =
          some ("Invalid character '-' in scope name 'In-1': " ++
            "only letters, digits and '_' are allowed") := by
  have hscopes : Schema.annot.scopes nestedAnnot = [] ++ innerScope :: [outerScope] := by
    decide
  have hdepth : (Schema.annot.toJson nestedAnnot).depth ≤ Draft.nestingLimit := by decide
  obtain ⟨fill, before, after, hfill, hother, htext⟩ :=
    decode_scopeText .annot nestedAnnot [] innerScope [outerScope] hscopes hdepth
  refine ⟨hscopes, hdepth, before, after, hfill ▸ (hother innerScope).2, ?_, ?_⟩
  · obtain ⟨hiff, hok, -⟩ := htext otherScope.name
    obtain ⟨w, hw⟩ := hiff.2 (Scope.exists_ofString_eq_ok_iff.1 ⟨_, Scope.ofString_name otherScope⟩)
    obtain ⟨other, hname, rfl⟩ := hok w hw
    refine ⟨_, hw, ?_⟩
    rw [(hother other).1, List.nil_append, List.map_cons, hname]
    rfl
  · obtain ⟨hiff, -, herror⟩ := htext "In-1"
    have hinvalid : Scope.ofString "In-1" = .error (.invalidCharacter "In-1" '-') := by
      decide +kernel
    cases hdecode : decode Schema.annot.read (before ++ render (.str "In-1") ++ after) with
    | ok w =>
      obtain ⟨other, hother⟩ := Scope.exists_ofString_eq_ok_iff.2 (hiff.1 ⟨w, hdecode⟩)
      exact nomatch hinvalid.symm.trans hother
    | error refusal =>
      obtain ⟨e, he, hmessage, -⟩ := herror refusal hdecode
      obtain rfl := Except.error.inj (hinvalid.symm.trans he)
      exact ⟨refusal, rfl, hmessage⟩

end Schema

end ScopeGen
