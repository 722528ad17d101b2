import Harvest.Proofs.Extract.Depth
import Harvest.Proofs.Json.Writing
import Harvest.Proofs.Spec.Built
import Harvest.Spec.Text
/-!
# Specs as texts and back

The text that a tree is written as is read as the tree's own objects and arrays (`reads_write`), and these give the tree
again as long as they are not too deep (`ofSource?_toSource`).  What is read from any text is a built tree that can be
written and read again (`Fits`).
-/
namespace Harvest.Spec

open Harvest.Json (Source quoted)
open Harvest.Json.Source (Reads Item)

/-! ## The objects of a tree -/

def textField (f : String × String) : Option String × Source := (some f.1, .string (some f.2))

mutual
/-- The object that a tree is written as. -/
def toSource : Spec → Source
  | ⟨name, selector, tag, filter, children⟩ =>
    .object ((plainFields ⟨name, selector, tag, filter, []⟩).map textField
      ++ match children with
        | [] => []
        | c :: cs => [(some "subitem", .array (toSource c :: toSources cs))])

def toSources : List Spec → List Source
  | [] => []
  | c :: cs => toSource c :: toSources cs
end

theorem toSources_eq : ∀ cs : List Spec, toSources cs = cs.map toSource
  | [] => rfl
  | c :: cs => congrArg (toSource c :: ·) (toSources_eq cs)

/-- The field of the children with its text; both are left out where there are none. -/
def childField (children : List Spec) : List (List Char × Option String × Source) :=
  if children.isEmpty then []
  else [(quoted "subitem" ++ ':' :: '[' :: (Text.join [','] (children.map write) ++ [']']),
    some "subitem", .array (children.map toSource))]

/-- The fields of a node, each with its text. -/
def fieldsOf (s : Spec) : List (List Char × Option String × Source) :=
  (s.plainFields.map fun f => (writeField f, textField f)) ++ childField s.children

theorem fieldsOf_fst (s : Spec) :
    s.fieldsOf.map Prod.fst = s.plainFields.map writeField ++ (childField s.children).map Prod.fst := by
  simp [fieldsOf]

theorem fieldsOf_snd (s : Spec) :
    s.fieldsOf.map Prod.snd = s.plainFields.map textField ++ (childField s.children).map Prod.snd := by
  simp [fieldsOf]

theorem plainFields_ne_nil (s : Spec) : s.plainFields ≠ [] := by simp [plainFields]

theorem toSource_eq (s : Spec) : s.toSource = .object (s.fieldsOf.map Prod.snd) := by
  rw [fieldsOf_snd]
  obtain ⟨name, selector, tag, filter, children⟩ := s
  cases children with
  | nil => rfl
  | cons c cs =>
    show Source.object (_ ++ [(some "subitem", .array (toSource c :: toSources cs))]) = _
    rw [toSources_eq]
    rfl

theorem write_writeRest : ∀ (c : Spec) (cs : List Spec),
    write c ++ writeRest cs = Text.join [','] ((c :: cs).map write) ++ [']']
  | c, [] => rfl
  | c, d :: cs => by
    rw [writeRest, write_writeRest d cs, List.map_cons (l := d :: cs), Text.join_cons [','] (write c) (by simp)]
    simp

theorem write_eq (s : Spec) : s.write = '\x7b' :: (Text.join [','] (s.fieldsOf.map Prod.fst) ++ ['\x7d']) := by
  rw [fieldsOf_fst]
  obtain ⟨name, selector, tag, filter, children⟩ := s
  cases children with
  | nil =>
    rw [write]
    simp [childField, plainFields]
  | cons c cs =>
    have hne : (plainFields ⟨name, selector, tag, filter, c :: cs⟩).map writeField ≠ [] := by
      simp [plainFields_ne_nil]
    rw [write, write_writeRest, childField, if_neg (by simp), List.map_singleton, Text.join_concat [','] _ hne]
    simp only [List.append_assoc, List.cons_append, List.nil_append]
    rfl

/-! ## Reading what is written -/

theorem item_of_mem_fieldsOf {s : Spec} (h : ∀ c ∈ s.children, Reads c.write c.toSource) :
    ∀ x ∈ s.fieldsOf, Item Source.fields? '\x7d' x.1 x.2 := by
  intro x hx
  rcases List.mem_append.1 hx with hx | hx
  · obtain ⟨f, -, rfl⟩ := List.mem_map.1 hx
    exact Source.item_field f.1 (Source.reads_quoted f.2)
  · unfold childField at hx
    split at hx
    · cases hx
    · rename_i hne
      cases List.mem_singleton.1 hx
      have harray := Source.reads_array (s.children.map fun c => (c.write, c.toSource))
        (by simpa using hne) (by simpa using h)
      rw [List.map_map, List.map_map] at harray
      exact Source.item_field "subitem" harray

/-- **A tree is written as the text of its object.** -/
theorem reads_write : ∀ s : Spec, Reads s.write s.toSource
  | ⟨name, selector, tag, filter, children⟩ => by
    have hchildren : ∀ c ∈ children, Reads c.write c.toSource := fun c _ => reads_write c
    rw [write_eq, toSource_eq]
    refine Source.reads_object ?_ (item_of_mem_fieldsOf hchildren)
    simp [fieldsOf, plainFields_ne_nil]

/-! ## From objects to trees -/

/-- Fields of strings are put into the node, as long as none comes twice. -/
theorem ofFields?_texts (depth : Nat) (rest : List (Option String × Source)) : ∀ (fs : List (String × String)) (s : Spec)
    (seen : List String), (∀ f ∈ fs, f.1 ∈ fieldNames ∧ f.1 ≠ "subitem" ∧ f.1 ∉ seen) → (fs.map Prod.fst).Nodup →
    ofFields? depth s seen (fs.map textField ++ rest) =
      ofFields? depth (fs.foldl (fun s f => s.setText f.1 f.2) s) ((fs.map Prod.fst).reverse ++ seen) rest
  | [], _, _, _, _ => rfl
  | f :: fs, s, seen, h, hnodup => by
    obtain ⟨hname, hsub, hseen⟩ := h f List.mem_cons_self
    rw [List.map_cons, List.nodup_cons] at hnodup
    have htail : ∀ g ∈ fs, g.1 ∈ fieldNames ∧ g.1 ≠ "subitem" ∧ g.1 ∉ f.1 :: seen := by
      intro g hg
      obtain ⟨hname, hsub, hseen⟩ := h g (List.mem_cons_of_mem f hg)
      refine ⟨hname, hsub, fun hmem => ?_⟩
      rcases List.mem_cons.1 hmem with heq | hmem
      · exact hnodup.1 (heq ▸ List.mem_map_of_mem hg)
      · exact hseen hmem
    have ih := ofFields?_texts depth rest fs (s.setText f.1 f.2) (f.1 :: seen) htail hnodup.2
    rw [List.map_cons, List.cons_append, textField, ofFields?, if_neg (by simpa using hname),
      if_neg (by simpa using hseen), if_neg (by simpa using hsub), ih]
    simp

theorem plainFields_sublist (s : Spec) : (s.plainFields.map Prod.fst).Sublist ["name", "selector", "type", "filter"] := by
  unfold plainFields
  split <;> split <;> split <;> simp

/-- The fields that are left out are those of a new node. -/
theorem foldl_plainFields {s : Spec} (h : s.Classified) :
    s.plainFields.foldl (fun s f => s.setText f.1 f.2) ({} : Spec) = { s with children := [] } := by
  obtain ⟨name, selector, tag, filter, children⟩ := s
  obtain ⟨hselector, htag⟩ := h
  unfold plainFields
  rw [List.foldl_append, List.foldl_append, List.foldl_append]
  have hname : (if name.isEmpty then [] else [("name", name)]).foldl (fun s f => s.setText f.1 f.2) ({} : Spec) =
      { name } := by
    split
    · next hempty =>
      rw [String.isEmpty_iff.1 hempty]
      rfl
    · rfl
  have hcurrent : (if selector.isCurrent then [] else [("selector", selector.toText)]).foldl
      (fun s f => s.setText f.1 f.2) ({ name } : Spec) = { name, selector } := by
    split
    · next hcurrent =>
      cases selector with
      | current => rfl
      | _ => cases hcurrent
    · exact congrArg (fun selector => ({ name, selector } : Spec)) hselector
  have htype : ({ name, selector } : Spec).setText "type" tag.toText = { name, selector, tag } :=
    congrArg (fun tag => ({ name, selector, tag } : Spec)) htag
  rw [hname, hcurrent, List.foldl_cons, List.foldl_nil, htype]
  split
  · next hempty =>
    rw [String.isEmpty_iff.1 hempty]
    rfl
  · rfl

/-- The field of the children is read one level deeper. -/
theorem ofFields?_children {s : Spec} {seen : List String} (h : "subitem" ∉ seen) (depth : Nat) (items : List Source) :
    ofFields? depth s seen [(some "subitem", .array items)] =
      match depth with
      | 0 => none
      | d + 1 => (ofChildren? d items).map s.withChildren := by
  have hnew : seen.contains "subitem" = false := by simpa using h
  cases depth with
  | zero =>
    unfold ofFields?
    simp only [hnew]
    rfl
  | succ d =>
    unfold ofFields?
    simp only [hnew]
    cases ofChildren? d items <;> rfl

theorem ofFields?_fieldsOf {s : Spec} (h : s.Classified) (depth : Nat) :
    ofFields? depth {} [] (s.fieldsOf.map Prod.snd) =
      if s.children = [] then some s
      else match depth with
        | 0 => none
        | d + 1 => (ofChildren? d (s.children.map toSource)).map s.withChildren := by
  have hsub := plainFields_sublist s
  have hnodup : (s.plainFields.map Prod.fst).Nodup := hsub.nodup (by decide)
  have hmem : ∀ f ∈ s.plainFields, f.1 ∈ fieldNames ∧ f.1 ≠ "subitem" ∧ f.1 ∉ [] := by
    intro f hf
    have := hsub.subset (List.mem_map_of_mem hf)
    simp only [List.mem_cons, List.not_mem_nil, or_false] at this
    rcases this with h | h | h | h <;> simp [h, fieldNames]
  have hunseen : "subitem" ∉ (s.plainFields.map Prod.fst).reverse ++ [] := by
    intro hmem
    rw [List.append_nil, List.mem_reverse] at hmem
    exact absurd (hsub.subset hmem) (by decide)
  rw [fieldsOf_snd, ofFields?_texts depth _ _ _ _ hmem hnodup, foldl_plainFields h]
  obtain ⟨name, selector, tag, filter, children⟩ := s
  cases children with
  | nil => rfl
  | cons c cs =>
    exact ofFields?_children hunseen depth _

mutual
/-- **The object of a tree is read as the tree, as long as it is not too deep.** -/
theorem ofSource?_toSource : ∀ {s : Spec} (depth : Nat), s.All Classified →
    ofSource? depth s.toSource = if 2 * s.height + 1 ≤ depth then some s else none
  | ⟨name, selector, tag, filter, children⟩, 0, h => by
    rw [toSource_eq, ofSource?, if_neg (by omega)]
  | ⟨name, selector, tag, filter, children⟩, depth + 1, h => by
    rw [toSource_eq, ofSource?, ofFields?_fieldsOf h.here]
    cases children with
    | nil => simp [height, heightAll]
    | cons c cs =>
      have hpos : 0 < heightAll (c :: cs) := by
        unfold heightAll
        omega
      rw [if_neg (by simp), height]
      cases depth with
      | zero => rw [if_neg (by omega)]
      | succ d =>
        show Option.map _ (ofChildren? d ((c :: cs).map toSource)) = _
        rw [ofChildren?_toSource d h.child]
        by_cases hd : 2 * heightAll (c :: cs) ≤ d + 1
        · rw [if_pos hd, if_pos (by omega)]
          rfl
        · rw [if_neg hd, if_neg (by omega)]
          rfl

theorem ofChildren?_toSource : ∀ {cs : List Spec} (depth : Nat), (∀ c ∈ cs, c.All Classified) →
    ofChildren? depth (cs.map toSource) = if 2 * heightAll cs ≤ depth + 1 then some cs else none
  | [], depth, _ => by simp [ofChildren?, heightAll]
  | c :: cs, depth, h => by
    have hc := ofSource?_toSource depth (h c List.mem_cons_self)
    have hcs := ofChildren?_toSource depth fun d hd => h d (List.mem_cons_of_mem c hd)
    rw [List.map_cons, ofChildren?, hc, hcs, heightAll]
    by_cases h₁ : 2 * c.height + 1 ≤ depth
    · by_cases h₂ : 2 * heightAll cs ≤ depth + 1
      · rw [if_pos h₁, if_pos h₂, if_pos (by omega)]
      · rw [if_pos h₁, if_neg h₂, if_neg (by omega)]
    · have hmax : ¬ 2 * max (c.height + 1) (heightAll cs) ≤ depth + 1 := by omega
      rw [if_neg h₁, if_neg hmax]
end

/-! ## What is read -/

/-- The tree can be read again from `depth` levels. -/
structure Fits (depth : Nat) (s : Spec) : Prop where
  classified : s.All Classified
  height : 2 * s.height + 1 ≤ depth

theorem fits_new (depth : Nat) : Fits (depth + 1) {} where
  classified := .node ⟨rfl, by decide⟩ fun c hc => nomatch hc
  height := Nat.le_add_left 1 depth

theorem setText_children (s : Spec) (field text : String) : (s.setText field text).children = s.children := by
  unfold setText
  split
  · rfl
  · split
    · rfl
    · split
      · rfl
      · split <;> rfl

theorem Fits.setText {depth : Nat} {s : Spec} (h : Fits depth s) (field text : String) :
    Fits depth (s.setText field text) where
  classified := .node (h.classified.here.setText field text) (by rw [setText_children]; exact h.classified.child)
  height := by
    rw [height_eq, setText_children, ← height_eq]
    exact h.height

theorem heightAll_le {n : Nat} : ∀ {cs : List Spec}, (∀ c ∈ cs, 2 * c.height + 1 ≤ n) → 2 * heightAll cs ≤ n + 1
  | [], _ => Nat.zero_le _
  | c :: cs, h => by
    have hc := h c List.mem_cons_self
    have hcs := heightAll_le fun d hd => h d (List.mem_cons_of_mem c hd)
    unfold heightAll
    omega

theorem Fits.withChildren {depth : Nat} {s : Spec} (h : Fits (depth + 2) s) {children : List Spec}
    (hc : ∀ c ∈ children, Fits depth c) : Fits (depth + 2) (s.withChildren children) where
  classified := .node h.classified.here fun c hmem => (hc c hmem).classified
  height := by
    have := heightAll_le fun c hmem => (hc c hmem).height
    rw [height_eq]
    show 2 * heightAll children + 1 ≤ _
    omega

-- By induction on the tree of the text.  An object and an array of fields take one level each, and the array of
-- children another one, so what is read below `depth + 1` fits there as it is, and a child has to fit below `depth`.
mutual
theorem fits_ofSource? : ∀ {src : Source} {depth : Nat} {s : Spec}, ofSource? depth src = some s → Fits depth s
  | .object fields, depth + 1, s, h => fits_ofFields? (fits_new depth) h
  | .array items, depth + 1, s, h => fits_ofItems? (fits_new depth) h

theorem fits_ofFields? : ∀ {fields : List (Option String × Source)} {depth : Nat} {s t : Spec} {seen : List String},
    Fits (depth + 1) s → ofFields? depth s seen fields = some t → Fits (depth + 1) t
  | [], depth, s, t, seen, hs, h => by
    cases h
    exact hs
  | (some name, value) :: rest, depth, s, t, seen, hs, h => by
    unfold ofFields? at h
    split at h
    · exact fits_ofFields? hs h
    · split at h
      · cases h
      · split at h
        · split at h
          · cases h
          · exact fits_ofFields? (hs.setText name _) h
        · split at h
          · cases h
          · split at h
            · cases h
            · split at h
              · next children hchildren =>
                exact fits_ofFields? (hs.withChildren (fits_ofChildren? hchildren)) h
              · cases h
        · cases h

theorem fits_ofItems? : ∀ {items : List Source} {depth : Nat} {s t : Spec} {names : List String},
    Fits (depth + 1) s → ofItems? depth s names items = some t → Fits (depth + 1) t
  | [], depth, s, t, names, hs, h => by
    cases h
    exact hs
  | value :: rest, depth, s, t, names, hs, h => by
    unfold ofItems? at h
    split at h
    · cases h
    · split at h
      · cases h
      · exact fits_ofItems? (hs.setText _ _) h
    · split at h
      · cases h
      · split at h
        · cases h
        · split at h
          · next children hchildren =>
            exact fits_ofItems? (hs.withChildren (fits_ofChildren? hchildren)) h
          · cases h
    · cases h

theorem fits_ofChildren? : ∀ {items : List Source} {depth : Nat} {cs : List Spec},
    ofChildren? depth items = some cs → ∀ c ∈ cs, Fits depth c
  | [], depth, cs, h => by
    cases h
    exact fun c hc => nomatch hc
  | s :: rest, depth, cs, h => by
    unfold ofChildren? at h
    split at h
    · next c cs hc hcs =>
      cases h
      intro d hd
      rcases List.mem_cons.1 hd with rfl | hd
      · exact fits_ofSource? hc
      · exact fits_ofChildren? hcs d hd
    · cases h
end

/-! ## The round trip -/

theorem parse_render_of_classified {s : Spec} (h : s.All Classified) :
    parse (render s) = if s.height + 1 ≤ 64 then .ok s else .error (.decode (.specJson (render s))) := by
  have hlevels : 2 * s.height + 1 ≤ Json.maxLevels ↔ s.height + 1 ≤ 64 := by
    unfold Json.maxLevels
    omega
  unfold parse render
  rw [String.toList_ofList, (reads_write s).parse?, Option.bind_some, ofSource?_toSource _ h]
  by_cases hs : s.height + 1 ≤ 64
  · rw [if_pos (hlevels.2 hs), if_pos hs]
  · rw [if_neg fun hs' => hs (hlevels.1 hs'), if_neg hs]

theorem fits_of_parse {text : String} {s : Spec} (h : parse text = .ok s) : Fits Json.maxLevels s := by
  unfold parse at h
  split at h
  · next t ht =>
    cases h
    obtain ⟨src, -, hsrc⟩ := Option.bind_eq_some_iff.1 ht
    exact fits_ofSource? hsrc
  · cases h

/-- **Specs come back from their texts.**  A tree that the builder methods make is read from the text that it is written
as if it has at most 64 levels, and that text is refused if it has more; every spec that is read from any text is built
and comes back when it is written and read again; and every text of a selector or of a tag is written back as it was
read. -/
theorem parse_render :
    (∀ s, Built s →
        parse (render s) = if s.height + 1 ≤ 64 then .ok s else .error (.decode (.specJson (render s))))
      ∧ (∀ text s, parse text = .ok s → Built s ∧ parse (render s) = .ok s)
      ∧ (∀ text, (Selector.ofText text).toText = text) ∧ ∀ text, (Tag.ofText text).toText = text := by
  refine ⟨fun s hs => parse_render_of_classified hs.classified, fun text s h => ?_, Selector.toText_ofText,
    Tag.toText_ofText⟩
  have hfits := fits_of_parse h
  have hlevels : s.height + 1 ≤ 64 := by
    have := hfits.height
    unfold Json.maxLevels at this
    omega
  refine ⟨built_iff.2 hfits.classified, ?_⟩
  rw [parse_render_of_classified hfits.classified, if_pos hlevels]

end Harvest.Spec
