import SqlLayout.Proofs.Layout.Composition
import SqlLayout.Proofs.Source.Neighbours
import SqlLayout.Proofs.Text.Letters

/-!
# Fields of parts

The words of a part are its fields: the names it has, what it takes over from the source as it is,
and the values of strings.  Names are printed in upper or lower case and with signs between them,
the rest as it is or between quotes.
-/

namespace SqlLayout.Layout

open SqlLayout.Tree

/-- The names, numbers and keywords of a part. -/
def names : Part → List String
  | .expr (.column name qualifier _) => name :: qualifier.toList
  | .expr (.literal value kind) => if kind == .string then [] else [value]
  | .expr (.star qualifier) => qualifier.toList
  | .expr (.call name _ _) | .expr (.aggregate name _ _) => [name]
  | .source (.table table) =>
    table.catalog.toList ++ table.schemaName.toList ++ table.name :: table.label.toList
  | .source (.derived label _ _) => label.toList
  | .join (.mk _ _ _ shared) => shared
  | .item (.mk _ label) => label.toList
  | .cte (.mk name columns _) => name :: columns
  | .dataType type => type.name :: (type.length.toList ++ type.scale.toList)
  | _ => []

/-- The texts of a part that are taken over as they are: operators, frames of windows, pivot
clauses, keywords of joins, and expressions without a node of their own. -/
def fragments : Part → List String
  | .expr (.binary operator _ _) | .expr (.unary operator _) => [operator]
  | .expr (.window _ _ _ frame) => frame.toList
  | .expr (.raw sql) => [sql]
  | .query q => q.setOperator.toList
  | .source (.table table) => table.pivot.toList
  | .source (.derived _ pivot _) => pivot.toList
  | .join (.mk keyword _ _ _) => [keyword]
  | _ => []

/-- The values of the strings of a part. -/
def strings : Part → List String
  | .expr (.literal value kind) => if kind == .string then [value] else []
  | _ => []

/-- Texts that are composed of texts of a list, with signs between them and behind them. -/
inductive Composed (texts : List String) : List Char → Prop
  | name {s : String} (h : s ∈ texts) : Composed texts s.toList
  | upper {text : List Char} (h : Composed texts text) : Composed texts (Text.upper text)
  | lower {text : List Char} (h : Composed texts text) : Composed texts (Text.lower text)
  | trail {text : List Char} {s : String} (hs : isSign s = true) (h : Composed texts text) :
      Composed texts (text ++ s.toList)
  | between {front back : List Char} {s : String} (hs : isSign s = true)
      (hfront : Composed texts front)
      (hback : Composed texts back) : Composed texts (front ++ s.toList ++ back)

section

variable {texts list : List String}

theorem mem_of_nonEmpty {text : String} {part : Option String} (h : text ∈ nonEmpty part) :
    text ∈ part.toList :=
  Option.mem_toList.2 (Option.eq_some_of_filter_eq_some h)

theorem composed_intercalate {sign : String} (hs : isSign sign = true) (hne : list ≠ [])
    (hlist : list ⊆ texts) :
    Composed texts (sign.intercalate list).toList := by
  rw [String.toList_intercalate]
  induction list with
  | nil => exact absurd rfl hne
  | cons first rest ih =>
      obtain ⟨hfirst, hrest⟩ := List.cons_subset.1 hlist
      cases rest with
      | nil => simpa using Composed.name hfirst
      | cons next more =>
          have hall := Composed.between hs (.name hfirst) (ih (List.cons_ne_nil _ _) hrest)
          simpa using hall

end

theorem exists_qualifiedName (table : TableRef) :
    ∃ parts, table.qualifiedName = ".".intercalate parts ∧
    parts ⊆ names (.source (.table table)) ∧ (parts = [] → table.name = "") := by
  refine ⟨_, rfl, fun text htext => ?_, fun hnil => ?_⟩
  · obtain ⟨part, hpart, heq⟩ := List.mem_filterMap.1 htext
    cases part with
    | none => cases heq
    | some other =>
        obtain ⟨-, rfl⟩ : ¬ other.isEmpty = true ∧ other = text := by simpa using heq
        simp only [List.mem_cons, List.not_mem_nil, or_false, Option.some.injEq] at hpart
        obtain hpart | hpart | rfl := hpart
        · simp [names, ← hpart]
        · simp [names, ← hpart]
        · simp [names]
  · have hnone := List.filterMap_eq_nil_iff.1 hnil (some table.name) (by simp)
    simpa using hnone

/-- The name of a table is composed of those of its parts that are not empty. -/
theorem composed_qualifiedName (table : TableRef) :
    Composed (names (.source (.table table))) table.qualifiedName.toList := by
  obtain ⟨parts, hparts, hsub, hnil⟩ := exists_qualifiedName table
  rw [hparts]
  by_cases hne : parts = []
  · rw [hne]
    exact .name (s := "") (by simp [names, hnil hne])
  · exact composed_intercalate (by decide) hne hsub

theorem composed_dataTypeText (type : DataType) :
    Composed (names (.dataType type)) (dataTypeText type).toList := by
  obtain ⟨name, length, scale⟩ := type
  have hname : Composed (names (.dataType ⟨name, length, scale⟩)) (Text.upper name.toList) :=
    .upper (.name List.mem_cons_self)
  match length, scale with
  | none, _ => simpa [dataTypeText, String.upperCase] using hname
  | some length, none =>
      have hlength : Composed (names (.dataType ⟨name, some length, none⟩)) length.toList :=
        .name (by simp [names])
      have hall := Composed.trail (s := ")") (by decide)
        (.between (s := "(") (by decide) hname hlength)
      simpa [dataTypeText, String.upperCase] using hall
  | some length, some scale =>
      have hlength : Composed (names (.dataType ⟨name, some length, some scale⟩)) length.toList :=
        .name (by simp [names])
      have hscale : Composed (names (.dataType ⟨name, some length, some scale⟩)) scale.toList :=
        .name (by simp [names])
      have hall := Composed.trail (s := ")") (by decide)
        (.between (s := "(") (by decide) hname (.between (s := ",") (by decide) hlength hscale))
      simpa [dataTypeText, String.upperCase] using hall

/-- How a word is made of the fields of its part: it is taken over as it is, stands between quotes,
is a sign, is composed of names, or is a star. -/
inductive Spelled (part : Part) : String → Prop
  | fragment {s : String} (h : s ∈ fragments part) : Spelled part s
  | string {value : String} (h : value ∈ strings part) : Spelled part (quoteString value)
  | sign {s : String} (h : startsLine s = true) : Spelled part s
  | composed {s : String} (h : Composed (names part) s.toList) : Spelled part s
  | star {s : String} {front : List Char} (hfront : front = [] ∨ Composed (names part) front)
      (h : s.toList = front ++ ['*']) : Spelled part s

theorem Spelled.of_name {part : Part} {s : String} (h : s ∈ names part) : Spelled part s :=
  .composed (.name h)

theorem Spelled.of_tail {part : Part} {label pivot : Option String} {s : String}
    (h : s ∈ tailTexts label pivot) (hlabel : label.toList ⊆ names part)
    (hpivot : pivot.toList ⊆ fragments part) : Spelled part s := by
  obtain h | h := List.mem_append.1 h
  · exact .of_name (hlabel (mem_of_nonEmpty (Option.mem_toList.1 h)))
  · exact .fragment (hpivot (mem_of_nonEmpty (Option.mem_toList.1 h)))

theorem Spelled.of_list {part : Part} {list : List String} {s : String}
    (h : s ∈ if list.isEmpty then [] else [", ".intercalate list]) (hlist : list ⊆ names part) :
    Spelled part s := by
  cases list with
  | nil => exact absurd h List.not_mem_nil
  | cons first rest =>
      obtain rfl := List.mem_singleton.1 h
      exact .composed (composed_intercalate (by decide) (List.cons_ne_nil _ _) hlist)

theorem startsLine_toString (n : Nat) : startsLine (toString n) = true := by
  have hsolid : ∀ c ∈ (toString n).toList, Source.isSolid c = true := fun c hc =>
    Source.solid_of_isWord (Text.isWord_of_toString n c hc)
  have hsign : isSign (toString n) = true := by
    refine Bool.and_eq_true_iff.2 ⟨by simp, List.all_eq_true.2 fun c hc => ?_⟩
    have hc := hsolid c hc
    simp only [Source.isSolid, Bool.and_eq_true] at hc ⊢
    exact ⟨hc.1.1, hc.2⟩
  have hhead : (toString n).toList.head? ≠ some ' ' := fun h =>
    absurd (hsolid _ (List.mem_of_mem_head? (Option.mem_def.2 h))) (by decide)
  rw [startsLine, hsign, Bool.true_and, bne_iff_ne.2 hhead]
  rfl

theorem spelled_leaf {e : Expr} {s : String} (h : s ∈ leafTexts e) : Spelled (.expr e) s := by
  cases e with
  | column name qualifier quoted =>
      obtain rfl := List.mem_singleton.1 h
      have hname : Composed (names (.expr (.column name qualifier quoted)))
          (if quoted then name else name.lowerCase).toList := by
        have hplain : Composed (names (.expr (.column name qualifier quoted))) name.toList :=
          .name List.mem_cons_self
        cases quoted with
        | true => exact hplain
        | false => simpa [String.lowerCase] using hplain.lower
      cases hqualifier : nonEmpty qualifier with
      | none => exact .composed hname
      | some table =>
          have htable : table ∈ names (.expr (.column name qualifier quoted)) :=
            List.mem_cons_of_mem _ (mem_of_nonEmpty hqualifier)
          refine .composed ?_
          simpa using Composed.between (s := ".") (by decide) (.name htable) hname
  | literal value kind =>
      obtain rfl := List.mem_singleton.1 h
      by_cases hkind : (kind == .string) = true
      · rw [if_pos hkind]
        exact .string (by simp [strings, hkind])
      · rw [if_neg hkind]
        exact .of_name (by simp [names, hkind])
  | star qualifier =>
      obtain rfl := List.mem_singleton.1 h
      cases hqualifier : nonEmpty qualifier with
      | none => exact .star (.inl rfl) rfl
      | some table =>
          have htable : Composed (names (.expr (.star qualifier))) table.toList :=
            .name (mem_of_nonEmpty hqualifier)
          exact .star (.inr (htable.trail (s := ".") (by decide))) (by simp)
  | raw sql => exact .fragment h
  | _ => exact absurd h List.not_mem_nil

/-- Every word is made of the fields of its part. -/
theorem spelled_of_mem_words {part : Part} {s : String} (h : s ∈ words part) : Spelled part s := by
  cases part with
  | expr e =>
      cases e with
      | call name args bare | aggregate name argument distinct =>
          obtain rfl := List.mem_singleton.1 h
          refine .composed ?_
          simpa [String.upperCase, names] using (Composed.name (List.mem_singleton_self name)).upper
      | index base index =>
          obtain rfl := List.mem_singleton.1 h
          exact .sign (startsLine_toString index)
      | binary operator left right | unary operator operand => exact .fragment h
      | window function partition order frame =>
          exact .fragment (mem_of_nonEmpty (Option.mem_toList.1 h))
      | _ => exact spelled_leaf h
  | query q => exact .fragment (mem_of_nonEmpty (Option.mem_toList.1 h))
  | source s =>
      cases s with
      | table table =>
          simp only [words, List.cons_append, List.nil_append, List.mem_cons] at h
          obtain rfl | rfl | h := h
          · refine .composed ?_
            rw [lowerName]
            split
            · exact composed_qualifiedName table
            · simpa [String.lowerCase] using (composed_qualifiedName table).lower
          · exact .composed (composed_qualifiedName table)
          · refine .of_tail h (fun label hlabel => ?_) (List.Subset.refl _)
            exact List.mem_append_right _ (List.mem_cons_of_mem _ hlabel)
      | derived label pivot query => exact .of_tail h (List.Subset.refl _) (List.Subset.refl _)
  | join j =>
      obtain ⟨keyword, source, condition, shared⟩ := j
      obtain rfl | h := List.mem_cons.1 h
      · exact .fragment List.mem_cons_self
      · exact .of_list h (List.Subset.refl _)
  | item i =>
      obtain ⟨value, label⟩ := i
      exact .of_name (mem_of_nonEmpty (Option.mem_toList.1 h))
  | cte c =>
      obtain ⟨name, columns, query⟩ := c
      obtain rfl | h := List.mem_cons.1 h
      · exact .of_name List.mem_cons_self
      · exact .of_list h (List.subset_cons_self _ _)
  | dataType type =>
      obtain rfl := List.mem_singleton.1 h
      exact .composed (composed_dataTypeText type)
  | _ => exact absurd h List.not_mem_nil

end SqlLayout.Layout
