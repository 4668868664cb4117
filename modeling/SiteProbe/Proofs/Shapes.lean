import SiteProbe.Proofs.Fetching
import SiteProbe.Proofs.JsonText
import SiteProbe.Proofs.SmallLetters

/-!
# What a shape says of a request

The shape of a request puts its method, its header fields and its body behind each other without any escapes. The body
can always be told from it (`Request.sameBody_of_shapeKey_eq`). The rest can if no separator stands within it
(`Request.alike_of_shapeKey_eq`), and of a request that can be sent that asks for no more than values without `&`
(`Request.separable_of_ofRequest`). All of this together is what a request has in common with those of its shape
(`Request.StandsFor`).
-/

namespace SiteProbe

/-! ## Separators -/

/-- The first separators of two equal texts are the same one. -/
theorem Text.eq_of_append_cons {c : Char} {before before' behind behind' : List Char}
    (h : before ++ c :: behind = before' ++ c :: behind') (hbefore : c ∉ before) (hbefore' : c ∉ before') :
    before = before' ∧ behind = behind' := by
  rcases List.append_eq_append_iff.mp h with ⟨es, rfl, hes⟩ | ⟨es, rfl, hes⟩
  · cases es with
    | nil => exact ⟨(List.append_nil before).symm, (List.cons.inj hes).2⟩
    | cons e es =>
      obtain rfl := (List.cons.inj hes).1
      simp at hbefore'
  · cases es with
    | nil => exact ⟨List.append_nil before', (List.cons.inj hes).2.symm⟩
    | cons e es =>
      obtain rfl := (List.cons.inj hes).1
      simp at hbefore

namespace Request

/-- The header fields, their names in small letters. -/
def fields (r : Request) : List (String × String) := r.headers.toList.map fun h => (Unicode.Case.lower h.1, h.2)

/-- The text of header fields in a shape. -/
def fieldsText (fields : List (String × String)) : String := "&".intercalate (fields.map fun h => h.1 ++ "=" ++ h.2)

/-- Header fields in which no separator stands. -/
structure SeparableFields (fields : List (String × String)) : Prop where
  names : ∀ h ∈ fields, '=' ∉ h.1.toList
  values : ∀ h ∈ fields, '&' ∉ h.2.toList

/-- Header fields with a separator behind each of them. -/
def endedFields (fields : List (String × String)) : List Char :=
  fields.flatMap fun h => h.1.toList ++ '=' :: (h.2.toList ++ ['&'])

theorem endedFields_cons (h : String × String) (rest : List (String × String)) :
    endedFields (h :: rest) = h.1.toList ++ '=' :: (h.2.toList ++ '&' :: endedFields rest) := by
  simp [endedFields]

theorem toList_fieldsText (h : String × String) (rest : List (String × String)) :
    (fieldsText (h :: rest)).toList ++ ['&'] = endedFields (h :: rest) := by
  induction rest generalizing h with
  | nil => simp [fieldsText, endedFields]
  | cons h' rest ih =>
    rw [endedFields_cons, ← ih h']
    simp [fieldsText]

/-- Header fields in which no separator stands are told by their separators. -/
theorem endedFields_inj {fields fields' : List (String × String)} (hf : SeparableFields fields)
    (hf' : SeparableFields fields') (h : endedFields fields = endedFields fields') : fields = fields' := by
  induction fields generalizing fields' with
  | nil =>
    cases fields' with
    | nil => rfl
    | cons e' rest' => simp [endedFields] at h
  | cons e rest ih =>
    cases fields' with
    | nil => simp [endedFields] at h
    | cons e' rest' =>
      rw [endedFields_cons, endedFields_cons] at h
      obtain ⟨hname, hbehind⟩ := Text.eq_of_append_cons h (hf.names e List.mem_cons_self)
        (hf'.names e' List.mem_cons_self)
      obtain ⟨hvalue, hrest⟩ := Text.eq_of_append_cons hbehind (hf.values e List.mem_cons_self)
        (hf'.values e' List.mem_cons_self)
      have he : e = e' := Prod.ext (String.toList_inj.mp hname) (String.toList_inj.mp hvalue)
      have htail := ih ⟨fun e he => hf.names e (.tail _ he), fun e he => hf.values e (.tail _ he)⟩
        ⟨fun e he => hf'.names e (.tail _ he), fun e he => hf'.values e (.tail _ he)⟩ hrest
      rw [he, htail]

theorem fieldsText_ne_empty (h : String × String) (rest : List (String × String)) : fieldsText (h :: rest) ≠ "" := by
  intro hempty
  have hlength := congrArg List.length (toList_fieldsText h rest)
  rw [hempty, endedFields_cons] at hlength
  simp at hlength
  omega

/-- Header fields in which no separator stands are told by their text. -/
theorem fieldsText_inj {fields fields' : List (String × String)} (hf : SeparableFields fields)
    (hf' : SeparableFields fields') (h : fieldsText fields = fieldsText fields') : fields = fields' := by
  cases fields with
  | nil =>
    cases fields' with
    | nil => rfl
    | cons e' rest' => exact absurd h.symm (fieldsText_ne_empty e' rest')
  | cons e rest =>
    cases fields' with
    | nil => exact absurd h (fieldsText_ne_empty e rest)
    | cons e' rest' =>
      refine endedFields_inj hf hf' ?_
      rw [← toList_fieldsText, ← toList_fieldsText, h]

/-! ## Shapes -/

theorem shapeKey_eq (r : Request) :
    r.shapeKey = r.methodName ++ " " ++ fieldsText r.fields ++ " " ++ r.bodyText := by
  unfold shapeKey fieldsText fields
  rw [List.map_map]
  rfl

/-- Requests bring the same body: none, the same text, or the same JSON text as JSON. -/
structure SameBody (r r' : Request) : Prop where
  sent : Message.bodyOf r = Message.bodyOf r'
  isText : (∃ s, r.body = some (.string s)) ↔ ∃ s, r'.body = some (.string s)

/-- Requests ask for the same, by the same method, header fields that differ in the case of names at most, and the same
body. -/
structure Alike (r r' : Request) : Prop extends SameBody r r' where
  method : r.methodName = r'.methodName
  fields : r.fields = r'.fields

/-- No separator of a shape stands in the method or in the header fields. -/
structure Separable (r : Request) : Prop extends SeparableFields r.fields where
  method : ' ' ∉ r.methodName.toList

theorem closed_bodyText (r : Request) : Json.Closed r.bodyText := by
  unfold bodyText
  split
  · rfl
  · rfl
  · exact Json.closed_compress _

/-- A body that is written as a text is told by its text in a shape. -/
theorem body_eq_string_iff (r : Request) (s : String) : r.body = some (.string s) ↔ r.bodyText = Json.quote s := by
  have hempty : "" ≠ Json.quote s := (Json.compress_ne_empty (.string s)).symm
  unfold bodyText
  constructor
  · intro h
    rw [h]
    rfl
  · intro h
    split at h
    · exact absurd h hempty
    · exact absurd h hempty
    · rename_i hbody
      rw [hbody, Json.eq_string_of_compress_eq h]

/-- Any other body is sent as it stands in a shape. -/
theorem bodyOf_eq (r : Request) (h : ∀ s, r.bodyText ≠ Json.quote s) :
    Message.bodyOf r = if r.bodyText = "" then none else some r.bodyText := by
  obtain ⟨method, headers, body⟩ := r
  cases body with
  | none => rfl
  | some v =>
    cases v with
    | null => rfl
    | string s => exact absurd rfl (h s)
    | _ => exact (if_neg (Json.compress_ne_empty _)).symm

theorem sameBody_of_bodyText_eq {r r' : Request} (h : r.bodyText = r'.bodyText) : SameBody r r' where
  sent := by
    by_cases htext : ∃ s, r.bodyText = Json.quote s
    · obtain ⟨s, hs⟩ := htext
      have hbody := (body_eq_string_iff r s).mpr hs
      have hbody' := (body_eq_string_iff r' s).mpr (h ▸ hs)
      rw [Message.bodyOf, Message.bodyOf, hbody, hbody']
    · rw [not_exists] at htext
      rw [bodyOf_eq r htext, bodyOf_eq r' (h ▸ htext), h]
  isText := by
    simp only [body_eq_string_iff, h]

variable {r r' : Request}

/-- Requests with one shape have the same text of their bodies, and the same text before it. -/
theorem bodyText_eq_of_shapeKey_eq (h : r.shapeKey = r'.shapeKey) : r.bodyText = r'.bodyText ∧
    r.methodName.toList ++ ' ' :: (fieldsText r.fields).toList =
      r'.methodName.toList ++ ' ' :: (fieldsText r'.fields).toList := by
  have hlist (r : Request) : r.shapeKey.toList =
      (r.methodName.toList ++ ' ' :: (fieldsText r.fields).toList) ++ ' ' :: r.bodyText.toList := by
    rw [shapeKey_eq]
    simp
  rw [← String.toList_inj, hlist, hlist] at h
  exact ((closed_bodyText r).eq_of_append (closed_bodyText r') h).symm

/-- Requests with one shape bring the same body. -/
theorem sameBody_of_shapeKey_eq (h : r.shapeKey = r'.shapeKey) : r.SameBody r' :=
  sameBody_of_bodyText_eq (bodyText_eq_of_shapeKey_eq h).1

/-- Requests with one shape in which no separator stands are alike. -/
theorem alike_of_shapeKey_eq (h : r.shapeKey = r'.shapeKey) (hr : r.Separable) (hr' : r'.Separable) : r.Alike r' := by
  obtain ⟨-, hbefore⟩ := bodyText_eq_of_shapeKey_eq h
  obtain ⟨hmethod, hfields⟩ := Text.eq_of_append_cons hbefore hr.method hr'.method
  exact ⟨sameBody_of_shapeKey_eq h, String.toList_inj.mp hmethod,
    fieldsText_inj hr.toSeparableFields hr'.toSeparableFields (String.toList_inj.mp hfields)⟩

end Request

/-! ## Requests that can be sent -/

namespace Message

variable {r r' : Request} {m m' : Message}

theorem toNat_lt_of_isTokenChar {c : Char} (h : isTokenChar c) : c.toNat < 128 := by
  have hmarks : "!#$%&'*+-.^_\x60|~".toList.all fun c => c.toNat < 128 := by decide
  rcases (Bool.or_eq_true _ _).mp h with hletter | hmark
  · exact Unicode.toNat_lt_of_isAlphanum hletter
  · exact of_decide_eq_true (List.all_eq_true.mp hmarks c (List.contains_iff_mem.mp hmark))

theorem isTokenChar_of_isToken {s : String} (h : isToken s) : ∀ c ∈ s.toList, isTokenChar c := by
  unfold isToken at h
  rw [Bool.and_eq_true, List.all_eq_true] at h
  exact h.2

theorem isToken_of_field {e e' : String × String} (h : field e = .ok e') : isToken e.1 := by
  unfold field at h
  split at h
  · cases h
  · rename_i hname
    simp only [isFieldName, Bool.not_eq_true', Bool.not_eq_false, Bool.and_eq_true] at hname
    exact hname.1

theorem isToken_of_mapM_field {es es' : List (String × String)} (h : es.mapM field = .ok es') :
    ∀ e ∈ es, isToken e.1 := by
  induction es generalizing es' with
  | nil => exact fun e he => by cases he
  | cons e rest ih =>
    rw [List.mapM_cons] at h
    cases he : field e with
    | error error => simp [he, bind, Except.bind] at h
    | ok e' =>
      cases hrest : rest.mapM field with
      | error error => simp [he, hrest, bind, Except.bind] at h
      | ok rest' => exact List.forall_mem_cons.mpr ⟨isToken_of_field he, ih hrest⟩

theorem isToken_of_ofRequest (h : ofRequest r = .ok m) :
    isToken r.methodName ∧ ∀ e ∈ r.headers.toList, isToken e.1 := by
  unfold ofRequest at h
  simp only [bind, Except.bind, pure, Except.pure, throw, throwThe, MonadExceptOf.throw] at h
  split at h
  · cases h
  · rename_i hmethod
    split at h
    · cases h
    · rename_i hheaders
      exact ⟨by simpa using hmethod, isToken_of_mapM_field hheaders⟩

theorem isAscii_of_isToken {s : String} (h : isToken s) : s.toList.all fun c => c.toNat < 128 := by
  rw [List.all_eq_true]
  exact fun c hc => decide_eq_true (toNat_lt_of_isTokenChar (isTokenChar_of_isToken h c hc))

theorem notMem_lower_of_isToken {s : String} (h : isToken s) : '=' ∉ (Unicode.Case.lower s).toList := by
  have hall : ∀ n < 128, (Char.ofNat n).toLower = '=' → ¬isTokenChar (Char.ofNat n) := by decide +kernel
  rw [Unicode.Case.toList_lower (isAscii_of_isToken h)]
  intro hmem
  obtain ⟨c, hc, hlower⟩ := List.mem_map.mp hmem
  have htoken := isTokenChar_of_isToken h c hc
  refine hall c.toNat (toNat_lt_of_isTokenChar htoken) ?_ ?_
  · rw [Char.ofNat_toNat, hlower]
  · rw [Char.ofNat_toNat, htoken]

/-- A body that is a text, or none, needs no header field. -/
theorem bodyType_eq_nil (h : bodyOf r = none ∨ ∃ s, r.body = some (.string s)) : bodyType r = [] := by
  obtain ⟨method, headers, body⟩ := r
  cases body with
  | none => rfl
  | some v =>
    cases v with
    | null => rfl
    | string s => rfl
    | _ => rcases h with h | ⟨s, h⟩ <;> cases h

/-- Any other body has a header field, which the request may bring itself. -/
theorem bodyType_eq (h : ¬(bodyOf r = none ∨ ∃ s, r.body = some (.string s))) : bodyType r =
    if (r.headers.toList.map fun e => (e.1.toLower, e.2)).any (·.1 = "content-type") then []
    else [("content-type", "application/json")] := by
  have hkeys : (r.headers.toList.map fun e => (e.1.toLower, e.2)).any (·.1 = "content-type") =
      r.headers.keys.any fun k => k.toLower = "content-type" := by
    unfold Dict.keys
    rw [List.any_map, List.any_map]
    rfl
  rw [hkeys]
  obtain ⟨method, headers, body⟩ := r
  cases body with
  | none => exact absurd (.inl rfl) h
  | some v =>
    cases v with
    | null => exact absurd (.inl rfl) h
    | string s => exact absurd (.inr ⟨s, rfl⟩) h
    | _ => rfl

end Message

namespace Request

variable {r r' : Request} {m m' : Message}

/-- No value of a header field has the sign that separates the fields. -/
def HasPlainValues (r : Request) : Prop := ∀ e ∈ r.headers.toList, '&' ∉ e.2.toList

/-- In a request that can be sent, a separator stands in the value of a header field if anywhere. -/
theorem separable_of_ofRequest (h : Message.ofRequest r = .ok m) (hvalues : r.HasPlainValues) : r.Separable := by
  obtain ⟨hmethod, hnames⟩ := Message.isToken_of_ofRequest h
  refine ⟨⟨?_, ?_⟩, fun hblank => ?_⟩
  · intro e he
    obtain ⟨e', he', rfl⟩ := List.mem_map.mp he
    exact Message.notMem_lower_of_isToken (hnames e' he')
  · intro e he
    obtain ⟨e', he', rfl⟩ := List.mem_map.mp he
    exact hvalues e' he'
  · exact absurd (Message.isTokenChar_of_isToken hmethod ' ' hblank) (by decide)

/-- Requests that are alike send the same message. -/
theorem Alike.message_eq (h : r.Alike r') (hm : Message.ofRequest r = .ok m) (hm' : Message.ofRequest r' = .ok m') :
    m = m' := by
  have hlower {r : Request} {m : Message} (hm : Message.ofRequest r = .ok m) :
      r.headers.toList.map (fun e => (e.1.toLower, e.2)) = r.fields :=
    List.map_congr_left fun e he => by
      rw [Unicode.Case.lower_eq_toLower (Message.isAscii_of_isToken ((Message.isToken_of_ofRequest hm).2 e he))]
  have hfields := (hlower hm).trans (h.fields.trans (hlower hm').symm)
  have htype : Message.bodyType r = Message.bodyType r' := by
    by_cases hplain : Message.bodyOf r = none ∨ ∃ s, r.body = some (.string s)
    · rw [Message.bodyType_eq_nil hplain, Message.bodyType_eq_nil (by rwa [← h.sent, ← h.isText])]
    · rw [Message.bodyType_eq hplain, Message.bodyType_eq (by rwa [← h.sent, ← h.isText]), hfields]
  rw [Message.ofRequest_ok hm, Message.ofRequest_ok hm', htype, h.method, hfields, h.sent]

/-- A request stands for another one: the body is the same, the requests are alike if no separator stands in their
parts, and the same message is sent for both if they can be sent and have plain values. -/
structure StandsFor (r r' : Request) : Prop where
  sameBody : r.SameBody r'
  alike : r.Separable → r'.Separable → r.Alike r'
  message_eq : ∀ m m', Message.ofRequest r = .ok m → Message.ofRequest r' = .ok m' →
    r.HasPlainValues → r'.HasPlainValues → m = m'

/-- Requests with one shape stand for each other. -/
theorem standsFor_of_shapeKey_eq (h : r.shapeKey = r'.shapeKey) : r.StandsFor r' where
  sameBody := sameBody_of_shapeKey_eq h
  alike := alike_of_shapeKey_eq h
  message_eq _ _ hm hm' hvalues hvalues' :=
    (alike_of_shapeKey_eq h (separable_of_ofRequest hm hvalues) (separable_of_ofRequest hm' hvalues')).message_eq hm hm'

end Request
end SiteProbe
