import ModelStore.Proofs.Sort.Words
import ModelStore.Proofs.Text.Path

/-!
The forms of an order. An order is one text with commas, a list of texts, or a list of pairs; in
each of them it lists paths with directions, and blank items among them do not count. All forms that
list the same paths with the same signs are sorted alike: by the fields of the paths, in their order,
and by default if none is listed.
-/
namespace ModelStore.Sort

open Text

variable {model : Model} {settings : Settings} {options : Value}

abbrev Wish := String × Int

/-- The values list the paths with the signs, each as an item of the kind; blank texts may stand
among them. -/
inductive Lists (Item : String → Value → Int → Prop) : List Wish → List Value → Prop
  | nil : Lists Item [] []
  | blank {s : String} {wishes : List Wish} {items : List Value} : AllBlank s.toList →
      Lists Item wishes items → Lists Item wishes (.text s :: items)
  | item {path : String} {v : Value} {sign : Int} {wishes : List Wish} {items : List Value} :
      Item path v sign → Lists Item wishes items → Lists Item ((path, sign) :: wishes) (v :: items)

theorem Lists.mono {Item Item' : String → Value → Int → Prop} {wishes : List Wish}
    {items : List Value} (h : Lists Item wishes items)
    (hitem : ∀ wish ∈ wishes, ∀ v, Item wish.1 v wish.2 → Item' wish.1 v wish.2) :
    Lists Item' wishes items := by
  induction h with
  | nil => exact .nil
  | blank hblank _ ih => exact .blank hblank (ih hitem)
  | @item path v sign wishes items hv _ ih =>
    refine .item (hitem (path, sign) List.mem_cons_self v hv) (ih fun wish hwish => ?_)
    exact hitem wish (List.mem_cons_of_mem _ hwish)

/-- The keys of wishes: the field of each path with the sign that it is asked for with. -/
def keysOf (model : Model) (wishes : List Wish) : Result (List Key) :=
  wishes.mapM fun wish => (fun field => (field, wish.2)) <$> model.fieldName wish.1

theorem keysOf_cons (wish : Wish) (wishes : List Wish) :
    keysOf model (wish :: wishes) = (do
      let field ← model.fieldName wish.1
      let keys ← keysOf model wishes
      .ok ((field, wish.2) :: keys)) := by
  rw [keysOf, List.mapM_cons]
  cases model.fieldName wish.1 <;> rfl

theorem ofItem_blank {s : String} (h : AllBlank s.toList) : ofItem model (.text s) = .ok none := by
  have hnone : trim ([] ++ [] ++ s.toList) = [] :=
    trim_padded (by decide) ⟨by simp, by simp⟩ h
  have htrim : trim (Value.text s).plain.toList = [] := hnone
  simp only [ofItem, htrim]

/-- What is made of the items of an order are the keys of the paths that they list. -/
theorem mapM_ofItem_of_lists {wishes : List Wish} {items : List Value}
    (h : Lists Names wishes items) :
    (do .ok ((← items.mapM (ofItem model)).filterMap id)) = keysOf model wishes := by
  induction h with
  | nil => rfl
  | blank hblank _ ih =>
    rw [← ih, List.mapM_cons, ofItem_blank hblank]
    cases List.mapM (ofItem model) _ <;> rfl
  | item hitem _ ih =>
    rw [keysOf_cons, ← ih, List.mapM_cons, ofItem_eq hitem]
    cases model.fieldName _ with
    | error failure => rfl
    | ok field => cases List.mapM (ofItem model) _ <;> rfl

theorem written_of_lists {order : Value} {wishes : List Wish} {values : List Value}
    (hitems : items order = .ok values) (h : Lists Names wishes values) :
    written model order = keysOf model wishes := by
  rw [written, hitems, ← mapM_ofItem_of_lists h]
  rfl

def sorted (model : Model) (settings : Settings) (options : Value) : List Wish → Result (List Key)
  | [] => byDefault model settings options
  | wishes => keysOf model wishes

theorem build_of_written {order : Value} {wishes : List Wish}
    (h : written model order = keysOf model wishes) :
    build model settings options order = sorted model settings options wishes := by
  rw [build, h]
  cases wishes with
  | nil => rfl
  | cons wish wishes =>
    have hsorted : sorted model settings options (wish :: wishes) =
        keysOf model (wish :: wishes) := rfl
    rw [hsorted, keysOf_cons]
    cases model.fieldName wish.1 with
    | error failure => rfl
    | ok field => cases keysOf model wishes <;> rfl

theorem items_list (values : List Value) : items (.list values) = .ok values := by
  cases values <;> rfl

theorem items_tuple (values : List Value) : items (.tuple values) = .ok values := by
  cases values <;> rfl

/-- A path as an order holds it: in words, or in a pair with the word of a direction. -/
inductive Form (path : String) : Value → Int → Prop
  | words {item : String} {sign : Int} : Words path item.toList sign → Form path (.text item) sign
  | pair {word : String} {sign : Int} : Directs word.toList sign →
      Form path (.tuple [.text path, .text word]) sign

/-- The character has the letter in lower case, wherever it stands. -/
def LowersTo (letter c : Char) : Prop := c ≠ 'Σ' ∧ c ≠ 'İ' ∧ lowerChar c = letter

instance (letter c : Char) : Decidable (LowersTo letter c) :=
  inferInstanceAs (Decidable (_ ∧ _))

/-- Letters of a word, small or not, have their small letters in lower case. -/
theorem lowerFrom_of_spells {letters word : List Char} (h : Spells letters word)
    (hletters : ∀ letter ∈ letters,
      LowersTo letter.toLower letter ∧ LowersTo letter.toLower letter.toLower)
    (passed : List Char) : lowerFrom passed word = letters.map Char.toLower := by
  induction h generalizing passed with
  | nil => rfl
  | @cons letter c _ _ hc _ ih =>
    have hsmall : LowersTo letter.toLower c := by
      rcases hc with rfl | rfl
      · exact (hletters _ List.mem_cons_self).1
      · exact (hletters letter List.mem_cons_self).2
    rw [lowerFrom, if_neg hsmall.1, if_neg hsmall.2.1, hsmall.2.2,
      ih fun letter hletter => hletters letter (List.mem_cons_of_mem _ hletter)]
    rfl

theorem readDirection_of_directs {word : String} {sign : Int} (h : Directs word.toList sign) :
    readDirection (.text word) = sign := by
  have hword : (Value.text word).plain = word := rfl
  rw [readDirection, hword, lower]
  cases h with
  | ascending h =>
    rw [lowerFrom_of_spells h (List.all_iff_forall_prop.mp (by decide +kernel))]
    decide
  | descending h =>
    rw [lowerFrom_of_spells h (List.all_iff_forall_prop.mp (by decide +kernel))]
    decide

theorem Form.names {path : String} {v : Value} {sign : Int} (hpath : IsPlainPath path)
    (h : Form path v sign) : Names path v sign := by
  cases h with
  | words h => exact h.names hpath
  | pair h =>
    rw [← readDirection_of_directs h]
    exact .pair _ []

/-- An order is cut between its items only. -/
theorem Lists.uncut {wishes : List Wish} {values : List Value} (h : Lists Form wishes values)
    (hpaths : ∀ wish ∈ wishes, IsPlainPath wish.1) :
    ∀ piece, .text piece ∈ values → ',' ∉ piece.toList := by
  induction h with
  | nil =>
    intro piece hpiece
    cases hpiece
  | blank hblank _ ih =>
    intro piece hpiece
    rcases List.mem_cons.mp hpiece with heq | hpiece
    · rw [Value.text.inj heq]
      exact hblank.uncut
    · exact ih hpaths piece hpiece
  | @item path v sign _ _ hv _ ih =>
    intro piece hpiece
    rcases List.mem_cons.mp hpiece with rfl | hpiece
    · cases hv with
      | words hwords => exact hwords.uncut (hpaths (path, sign) List.mem_cons_self)
    · exact ih (fun wish hwish => hpaths wish (List.mem_cons_of_mem _ hwish)) piece hpiece

def joined (pieces : List String) : String :=
  String.ofList (joinWith ',' (pieces.map String.toList))

theorem items_joined {pieces : List String} (hset : pieces ≠ [])
    (huncut : ∀ piece ∈ pieces, ',' ∉ piece.toList) :
    items (.text (joined pieces)) = .ok (pieces.map Value.text) := by
  have hpieces : cutAt ',' (joined pieces).toList = pieces.map String.toList := by
    rw [joined, String.toList_ofList]
    refine cutAt_joinWith (by simpa using hset) fun cs hcs => ?_
    obtain ⟨piece, hpiece, rfl⟩ := List.mem_map.mp hcs
    exact huncut piece hpiece
  rw [items, hpieces, List.map_map]
  congr 2
  funext piece
  simp

/-- An order sorts by what it lists, in whichever form: as one text, or as a list or a tuple of texts
and pairs. -/
theorem sortedAlike {wishes : List Wish} (hpaths : ∀ wish ∈ wishes, IsPlainPath wish.1)
    (model : Model) (settings : Settings) (options : Value) :
    (∀ pieces : List String, Lists Form wishes (pieces.map Value.text) →
        build model settings options (.text (joined pieces)) =
          sorted model settings options wishes) ∧
      ∀ values, Lists Form wishes values → ∀ order ∈ [Value.list values, .tuple values],
        build model settings options order = sorted model settings options wishes := by
  have hbuild : ∀ {order values}, items order = .ok values → Lists Form wishes values →
      build model settings options order = sorted model settings options wishes := by
    intro order values hitems hlists
    have hnames : Lists Names wishes values :=
      hlists.mono fun wish hwish _ hform => hform.names (hpaths wish hwish)
    exact build_of_written (written_of_lists hitems hnames)
  constructor
  · intro pieces hlists
    by_cases hempty : pieces = []
    · -- Without a piece the text is blank, which is still one item.
      subst hempty
      have hblank : Lists Form wishes [.text ""] := by
        cases hlists
        exact .blank (by decide) .nil
      exact hbuild rfl hblank
    · refine hbuild (items_joined hempty fun piece hpiece => ?_) hlists
      exact hlists.uncut hpaths piece (List.mem_map_of_mem hpiece)
  · intro values hlists order horder
    rcases List.mem_pair.mp horder with rfl | rfl
    · exact hbuild (items_list values) hlists
    · exact hbuild (items_tuple values) hlists

def members : Model :=
  .ofSchema "Member" [("first name", .node { name := "first name", fieldName := .text "given" } none
    none)] {}

def ranking : List Wish := [("id", descending), ("first name", ascending)]

theorem isPlainPath_ranking : ∀ wish ∈ ranking, IsPlainPath wish.1 := by
  intro wish hwish
  simp only [ranking, List.mem_cons, List.not_mem_nil, or_false] at hwish
  rcases hwish with rfl | rfl
  all_goals
    refine ⟨by decide, by decide, by decide, ?_⟩
    exact endsUndirected_iff.mpr (by decide)

/-- The word in capitals and small letters. -/
theorem directs_desc : Directs "dESC".toList descending := by
  have hword : "dESC".toList = ['d', 'E', 'S', 'C'] := by decide
  rw [hword]
  exact .descending (.cons (.inr rfl) (.cons (.inl rfl) (.cons (.inl rfl) (.cons (.inl rfl) .nil))))

theorem lists_ranking_texts :
    Lists Form ranking ([" id \tdESC", " ", "first name"].map Value.text) := by
  have hid : " id \tdESC".toList = [' '] ++ ("id".toList ++ [' ', '\t'] ++ "dESC".toList) ++ [] := by
    decide
  have hname : "first name".toList = [] ++ "first name".toList ++ [] := by decide
  refine .item (.words ?_) (.blank (by decide) (.item (.words ?_) .nil))
  · rw [hid]
    exact .directed (by decide) (by decide) (by decide) directs_desc (by decide)
  · rw [hname]
    exact .alone (by decide) (by decide)

theorem lists_ranking_pairs :
    Lists Form ranking
      [.tuple [.text "id", .text "dESC"], .tuple [.text "first name", .text "asc"]] := by
  have hasc : "asc".toList = ['a', 's', 'c'] := by decide
  refine .item (.pair directs_desc) (.item (.pair ?_) .nil)
  rw [hasc]
  exact .ascending (.cons (.inr rfl) (.cons (.inr rfl) (.cons (.inr rfl) .nil)))

theorem sortedAlike_ranking :
    (∀ wish ∈ ranking, IsPlainPath wish.1) ∧
      build members {} .null (.text (joined [" id \tdESC", " ", "first name"])) =
        .ok [("_id", -1), ("given", 1)] ∧
      build members {} .null (.list
          [.tuple [.text "id", .text "dESC"], .tuple [.text "first name", .text "asc"]]) =
        .ok [("_id", -1), ("given", 1)] := by
  have hsorted : sorted members {} .null ranking = .ok [("_id", -1), ("given", 1)] := rfl
  obtain ⟨htexts, hvalues⟩ := sortedAlike isPlainPath_ranking members {} .null
  refine ⟨isPlainPath_ranking, ?_, ?_⟩
  · rw [htexts _ lists_ranking_texts, hsorted]
  · rw [hvalues _ lists_ranking_pairs _ List.mem_cons_self, hsorted]

end ModelStore.Sort
