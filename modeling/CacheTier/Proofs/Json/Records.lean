import CacheTier.Proofs.Json.Documents
import CacheTier.Proofs.Json.Rearranged
import Mathlib.Data.List.Nodup
import Mathlib.Data.List.Pairwise
import Mathlib.Data.Option.Basic

/-!
# Reading records back

The fields of a record can be read in any order, because none of them notices the others.  So a
record is read back from its document and from every rearrangement of it, and so is a value that
is told by a tag among its fields.
-/

namespace CacheTier
namespace Json

/-- A value is read from a document, in whatever order the fields of its objects stand. -/
def Reads {α : Type} (read : Value → Reading α) (d : Doc) (a : α) : Prop :=
  ∀ e, Rearranged d e → read e.tree = .ok a

section Values

variable {α β : Type} {read : Value → Reading α} {d : Doc} {a : α}

theorem bind_eq_ok {x : Reading α} {next : α → Reading β} {b : β} :
    x >>= next = .ok b ↔ ∃ a, x = .ok a ∧ next a = .ok b := by
  cases x with
  | error fault =>
      refine iff_of_false nofun ?_
      rintro ⟨a, ha, -⟩
      cases ha
  | ok a =>
      constructor
      · intro h
        exact ⟨a, rfl, h⟩
      · rintro ⟨b, hb, h⟩
        cases hb
        exact h

theorem Reads.bind (h : Reads read d a) (next : α → Reading β) {b : β} (hnext : next a = .ok b) :
    Reads (fun v => read v >>= next) d b := by
  intro e he
  simp only [h e he]
  exact hnext

theorem Reads.map (f : α → β) (h : Reads read d a) : Reads (fun v => f <$> read v) d (f a) := by
  intro e he
  simp only [h e he]
  rfl

theorem reads_text (s : String) : Reads Value.readText (.text s) s := by
  intro e he
  cases he
  rfl

theorem reads_word (w : UInt64) : Reads Value.readWord (.word w) w := by
  intro e he
  cases he
  simp only [Doc.tree, Value.readWord, Numeral.value?_ofInt_word]

theorem reads_int (i : Int64) : Reads Value.readInt (.int i.toInt) i := by
  intro e he
  cases he
  by_cases hneg : i.toInt < 0
  · simp only [Doc.tree, Value.readInt, Numeral.value?_ofInt_negative hneg]
  · have hlt : i.toInt < 2 ^ 63 := i.toInt_lt
    have hword : i.toInt = ((UInt64.ofNat i.toInt.toNat).toNat : Int) := by
      rw [UInt64.toNat_ofNat_of_lt' (by rw [show UInt64.size = 2 ^ 64 from rfl]; omega)]
      omega
    have hsmall : (UInt64.ofNat i.toInt.toNat).toNat < Nat.pow 2 63 := by
      rw [show Nat.pow 2 63 = 2 ^ 63 from rfl]
      omega
    have hback : Int64.ofNat (UInt64.ofNat i.toInt.toNat).toNat = i := by
      rw [← Int64.ofInt_eq_ofNat, ← hword, Int64.ofInt_toInt]
    simp only [Doc.tree, Value.readInt]
    rw [hword, Numeral.value?_ofInt_word]
    simp only [if_pos hsmall, hback]

theorem reads_float {x : Float} (h : FloatReadsBack x) : Reads Value.readFloat (.float x) x := by
  intro e he
  cases he
  exact h.numeral?_eq.2

theorem reads_none : Reads (Value.readOption read) .null none := by
  intro e he
  cases he
  rfl

theorem reads_some (hd : d ≠ .null) (h : Reads read d a) :
    Reads (Value.readOption read) d (some a) := by
  intro e he
  have hread : some <$> read e.tree = .ok (some a) := Reads.map some h e he
  cases he with
  | null => exact absurd rfl hd
  | _ => exact hread

theorem reads_list {toDoc : α → Doc} {xs : List α} (h : ∀ x ∈ xs, Reads read (toDoc x) x) :
    Reads (Value.readList read) (.array (xs.map toDoc)) xs := by
  intro e he
  cases he with
  | @array _ ys hitems =>
      have hread : (trees ys).mapM read = .ok xs := by
        induction xs generalizing ys with
        | nil =>
            cases hitems
            rfl
        | cons x xs ih =>
            cases hitems with
            | cons hfirst hrest =>
                rw [trees, List.mapM_cons, h x List.mem_cons_self _ hfirst,
                  ih (fun y hy => h y (List.mem_cons_of_mem x hy)) hrest]
                rfl
      simp only [Doc.tree, Value.readList, hread]
      rfl

end Values

/-! ## Records -/

namespace RecordField

section Apart

variable {σ α β : Type} {f g : RecordField σ} {s t u : σ} {v w : Value}

/-- A field can be read after another field as well as before it. -/
structure Passes (f g : RecordField σ) : Prop where
  seen {s t : σ} {v : Value} (h : f.read s v = .ok t) : g.seen t = g.seen s
  swap {s t u : σ} {v w : Value} (hf : f.read s v = .ok t) (hg : g.read t w = .ok u) :
    ∃ t', g.read s w = .ok t' ∧ f.read t' v = .ok u

/-- Two fields can be read in either order. -/
structure Apart (f g : RecordField σ) : Prop where
  left : f.Passes g
  right : g.Passes f

instance : Std.Symm (@Apart σ) := ⟨fun _ _ h => ⟨h.right, h.left⟩⟩

theorem of_read_eq_ok {name : String} {get : σ → Option α} {set : σ → α → σ}
    {read : Value → Reading α} :
    (RecordField.of name get set read).read s v = .ok t ↔ ∃ a, read v = .ok a ∧ set s a = t := by
  change (read v >>= fun a => .ok (set s a)) = .ok t ↔ _
  simp only [bind_eq_ok, Except.ok.injEq]

variable {nameF nameG : String} {getF : σ → Option α} {getG : σ → Option β} {setF : σ → α → σ}
  {setG : σ → β → σ} {readF : Value → Reading α} {readG : Value → Reading β}

theorem Passes.of (hget : ∀ s a, getG (setF s a) = getG s)
    (hset : ∀ s a b, setG (setF s a) b = setF (setG s b) a) :
    (RecordField.of nameF getF setF readF).Passes (.of nameG getG setG readG) where
  seen h := by
    obtain ⟨a, -, rfl⟩ := of_read_eq_ok.mp h
    exact congrArg Option.isSome (hget _ a)
  swap hf hg := by
    obtain ⟨a, ha, rfl⟩ := of_read_eq_ok.mp hf
    obtain ⟨b, hb, rfl⟩ := of_read_eq_ok.mp hg
    exact ⟨_, of_read_eq_ok.mpr ⟨b, hb, rfl⟩, of_read_eq_ok.mpr ⟨a, ha, (hset _ a b).symm⟩⟩

/-- Fields that set different parts of a record are apart. -/
theorem Apart.of (hgetG : ∀ s a, getG (setF s a) = getG s)
    (hgetF : ∀ s b, getF (setG s b) = getF s)
    (hset : ∀ s a b, setG (setF s a) b = setF (setG s b) a) :
    (RecordField.of nameF getF setF readF).Apart (.of nameG getG setG readG) :=
  ⟨.of hgetG hset, .of hgetF fun s b a => (hset s a b).symm⟩

end Apart
end RecordField

section Records

variable {σ : Type} {fields : List (RecordField σ)} {s t u : σ}

/-- Reads one field of an object. -/
def readField (fields : List (RecordField σ)) : Option String × Value → σ → Reading σ
  | (none, _), _ => .error .syntaxFault
  | (some key, v), s =>
    match fields.find? (·.name == key) with
    | none => do v.skip; pure s
    | some field => if field.seen s then .error .mismatch else field.read s v

theorem readFields_cons (entry : Option String × Value)
    (rest : List (Option String × Value)) (s : σ) :
    Value.readFields fields (entry :: rest) s =
      readField fields entry s >>= Value.readFields fields rest := by
  rcases entry with ⟨_ | key, v⟩
  · rfl
  · rw [Value.readFields, readField]
    cases fields.find? (·.name == key) with
    | none => cases v.skip <;> rfl
    | some field =>
        simp only
        split_ifs <;> rfl

/-- A field that is read is passed over, or it is known and comes for the first time. -/
theorem readField_eq_ok {key : String} {v : Value} :
    readField fields (some key, v) s = .ok t ↔
      (fields.find? (·.name == key) = none ∧ v.skip = .ok () ∧ t = s) ∨
        ∃ field, fields.find? (·.name == key) = some field ∧ field.seen s = false ∧
          field.read s v = .ok t := by
  rw [readField]
  cases fields.find? (·.name == key) with
  | none =>
      cases v.skip with
      | error fault => exact iff_of_false nofun (by rintro (⟨-, h, -⟩ | ⟨field, h, -⟩) <;> cases h)
      | ok a =>
          constructor
          · intro h
            exact Or.inl ⟨rfl, rfl, (Except.ok.inj h).symm⟩
          · rintro (⟨-, -, rfl⟩ | ⟨field, h, -⟩)
            · rfl
            · cases h
  | some field =>
      cases hseen : field.seen s with
      | true => simp [hseen]
      | false => simp [hseen]

theorem readField_swap (hapart : fields.Pairwise RecordField.Apart)
    {x y : Option String × Value} (hkeys : x.1 ≠ y.1) (hx : readField fields x s = .ok t)
    (hy : readField fields y t = .ok u) :
    ∃ t', readField fields y s = .ok t' ∧ readField fields x t' = .ok u := by
  rcases x with ⟨_ | key, v⟩
  · cases hx
  rcases y with ⟨_ | other, w⟩
  · cases hy
  simp only [readField_eq_ok] at hx hy ⊢
  rcases hx with ⟨hf, hv, rfl⟩ | ⟨f, hf, hseen, hread⟩
  · exact ⟨u, hy, Or.inl ⟨hf, hv, rfl⟩⟩
  rcases hy with ⟨hg, hw, rfl⟩ | ⟨g, hg, hseen', hread'⟩
  · exact ⟨s, Or.inl ⟨hg, hw, rfl⟩, Or.inr ⟨f, hf, hseen, hread⟩⟩
  have hne : f ≠ g := by
    rintro rfl
    have hkey : f.name = key := by simpa using List.find?_some hf
    have hother : f.name = other := by simpa using List.find?_some hg
    exact hkeys (by rw [← hkey, ← hother])
  obtain ⟨hfg, hgf⟩ :=
    hapart.forall (List.mem_of_find?_eq_some hf) (List.mem_of_find?_eq_some hg) hne
  obtain ⟨t', hg', hf'⟩ := hfg.swap hread hread'
  refine ⟨t', Or.inr ⟨g, hg, ?_, hg'⟩, Or.inr ⟨f, hf, ?_, hf'⟩⟩
  · rw [← hfg.seen hread, hseen']
  · rw [hgf.seen hg', hseen]

theorem readFields_perm (hapart : fields.Pairwise RecordField.Apart)
    {xs ys : List (Option String × Value)} (hperm : xs.Perm ys)
    (hkeys : (xs.map Prod.fst).Nodup) (h : Value.readFields fields xs s = .ok t) :
    Value.readFields fields ys s = .ok t := by
  induction hperm generalizing s with
  | nil => exact h
  | cons x hperm ih =>
      rw [readFields_cons, bind_eq_ok] at h ⊢
      obtain ⟨next, hnext, h⟩ := h
      exact ⟨next, hnext, ih (List.nodup_cons.mp hkeys).2 h⟩
  | swap x y xs =>
      simp only [readFields_cons, bind_eq_ok] at h ⊢
      obtain ⟨first, hfirst, second, hsecond, h⟩ := h
      have hne : y.1 ≠ x.1 := by
        rintro heq
        exact (List.nodup_cons.mp hkeys).1 (heq ▸ List.mem_cons_self)
      obtain ⟨other, hother, hlast⟩ := readField_swap hapart hne hfirst hsecond
      exact ⟨other, hother, second, hlast, h⟩
  | trans hfirst hsecond ihfirst ihsecond =>
      exact ihsecond ((hfirst.map Prod.fst).nodup_iff.mp hkeys) (ihfirst hkeys h)

/-- The fields of a document, read one after another, take a record from one state to another. -/
inductive FieldsRead (fields : List (RecordField σ)) : List (String × Doc) → σ → σ → Prop
  | nil {s : σ} : FieldsRead fields [] s s
  | cons {key : String} {d : Doc} {docs : List (String × Doc)} {field : RecordField σ}
      {s next t : σ} (hfind : fields.find? (·.name == key) = some field)
      (hseen : field.seen s = false) (hread : Reads (field.read s) d next)
      (hrest : FieldsRead fields docs next t) : FieldsRead fields ((key, d) :: docs) s t

variable {docs ds : List (String × Doc)}

theorem FieldsRead.readFields_eq (h : FieldsRead fields docs s t) (hds : RearrangedFields docs ds) :
    Value.readFields fields (fieldTrees ds) s = .ok t := by
  induction h generalizing ds with
  | nil =>
      cases hds
      rfl
  | cons hfind hseen hread hrest ih =>
      cases hds with
      | cons hfirst hds =>
          rw [fieldTrees, readFields_cons, bind_eq_ok]
          exact ⟨_, readField_eq_ok.mpr (Or.inr ⟨_, hfind, hseen, hread _ hfirst⟩), ih hds⟩

theorem RearrangedFields.keys_eq (h : RearrangedFields docs ds) :
    ds.map Prod.fst = docs.map Prod.fst := by
  induction docs generalizing ds with
  | nil =>
      cases h
      rfl
  | cons field docs ih =>
      cases h with
      | cons hfirst hrest => rw [List.map_cons, List.map_cons, ih hrest]

/-- A record is read from its fields in any order. -/
theorem reads_record (hapart : fields.Pairwise RecordField.Apart)
    (hkeys : (docs.map Prod.fst).Nodup) (h : FieldsRead fields docs s t) :
    Reads (Value.readRecord fields s) (.object docs) t := by
  intro e he
  cases he with
  | @object _ gs hs hfields hperm =>
      have hnodup : ((fieldTrees gs).map Prod.fst).Nodup := by
        have hnames : (fieldTrees gs).map Prod.fst = (docs.map Prod.fst).map some := by
          rw [← hfields.keys_eq, fieldTrees_eq_map, List.map_map, List.map_map]
          rfl
        rw [hnames]
        exact hkeys.map (Option.some_injective String)
      have hread : Value.readFields fields (fieldTrees hs) s = .ok t := by
        refine readFields_perm hapart ?_ hnodup (h.readFields_eq hfields)
        rw [fieldTrees_eq_map, fieldTrees_eq_map]
        exact hperm.map _
      rw [Doc.tree, Value.readRecord, hread]
      rfl

end Records

/-! ## Records that are told apart -/

section Tagged

variable {α : Type} {read : Value → Reading α} {a : α}
  {variants : List (String × (Value → Reading α))}

theorem reads_unit : Reads (Value.readUnit a) (.object []) a := by
  intro e he
  cases he
  rfl

/-- A record that an object names by its only key. -/
theorem reads_variant {name : String} {d : Doc} (hname : variants.lookup name = some read)
    (h : Reads read d a) : Reads (Value.readVariant variants) (.object [(name, d)]) a := by
  intro e he
  cases he with
  | object hfields hperm =>
      cases hfields with
      | cons hfirst hrest =>
          cases hrest
          rw [List.perm_singleton.mp hperm.symm, Doc.tree, fieldTrees, Value.readVariant, hname]
          simp only [h _ hfirst]
          rfl

theorem filter_fieldTrees (keep : Option String → Bool) (docs : List (String × Doc)) :
    (fieldTrees docs).filter (fun field => keep field.1) =
      fieldTrees (docs.filter fun field => keep (some field.1)) := by
  rw [fieldTrees_eq_map, fieldTrees_eq_map, List.filter_map]
  rfl

/-- A tag is found among the fields of an object, wherever it stands. -/
theorem splitTag_rearranged (known : String → Bool) {tag name : String}
    {docs : List (String × Doc)} (hknown : known name = true) (htag : tag ∉ docs.map Prod.fst)
    {e : Doc} (he : Rearranged (.object ((tag, .text name) :: docs)) e) :
    ∃ body, Rearranged (.object docs) body ∧
      e.tree.splitTag tag known = .ok (name, body.tree) := by
  cases he with
  | @object _ gs hs hfields hperm =>
      cases hfields with
      | @cons _ _ y _ gs hfirst hrest =>
          cases hfirst
          have hother : ∀ field ∈ gs, field.1 ≠ tag := by
            rintro field hfield rfl
            rw [← hrest.keys_eq] at htag
            exact htag (List.mem_map_of_mem hfield)
          have hfound : hs.filter (fun field => some field.1 == some tag) = [(tag, .text name)] := by
            refine List.perm_singleton.mp ((hperm.filter _).symm.trans ?_)
            rw [List.filter_cons_of_pos (by simp),
              List.filter_eq_nil_iff.mpr fun field hfield => by simp [hother field hfield]]
          have hbody : gs.Perm (hs.filter fun field => some field.1 != some tag) := by
            refine List.Perm.trans (.of_eq ?_) (hperm.filter _)
            rw [List.filter_cons_of_neg (by simp),
              List.filter_eq_self.mpr fun field hfield => by simp [hother field hfield]]
          refine ⟨.object _, .object hrest hbody, ?_⟩
          rw [Doc.tree, Value.splitTag, filter_fieldTrees (· == some tag), hfound,
            filter_fieldTrees (· != some tag)]
          simp only [fieldTrees, Doc.tree, Value.readText]
          change (if known name = true then _ else _) = _
          rw [if_pos hknown]
          rfl

/-- A record that is told by a tag is read with the tag anywhere among its fields. -/
theorem reads_tagged {tag name : String} {docs : List (String × Doc)}
    (hplain : (Doc.object ((tag, .text name) :: docs)).tree.isPlain Value.depthLimit = true)
    (hname : variants.lookup name = some read) (htag : tag ∉ docs.map Prod.fst)
    (h : Reads read (.object docs) a) :
    Reads (Value.readTagged tag variants) (.object ((tag, .text name) :: docs)) a := by
  intro e he
  obtain ⟨body, hbody, hsplit⟩ := splitTag_rearranged (fun name => (variants.lookup name).isSome)
    (by rw [hname]; rfl) htag he
  rw [Value.readTagged, Value.takeIn, he.isPlain_eq, if_pos hplain]
  change e.tree.splitTag tag _ >>= _ = _
  rw [hsplit]
  simp only [bind, Except.bind, hname]
  exact h body hbody

end Tagged

end Json
end CacheTier
