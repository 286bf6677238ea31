import TwoWay.Proofs.StraightLine.Inverted
import TwoWay.Proofs.StraightLine.Read

/-!
Both directions of a straight line are known exactly. An inversion succeeds just when
the needle has the record's keys, agrees with the constants, and has a text for each
pattern that the pattern accepts. The text that is put out is read back as the needle
just when each pattern, over what is spelled from it on, matches its own text again and
no other.
-/

namespace TwoWay

variable {M : Type}

namespace Line

variable {line : Line} {needle : Needle}

theorem record_beq_iff (hmeets : line.Meets needle) {fields : List (String × Value)}
    (hkeys : Bindings.keys fields = Item.keys line.items) :
    (Value.record (fields ++ line.constants) == needle.value) = true ↔
      ∀ field ∈ fields, field.2 = .string (Item.textOf needle field.1) := by
  have hall : Bindings.keys (fields ++ line.constants) = line.keys := by
    rw [Bindings.keys, List.map_append]
    exact congrArg (· ++ _) hkeys
  have hnodup : (Bindings.keys (fields ++ line.constants)).Nodup := by
    rw [hall]
    exact line.distinct
  have htexts : ∀ field ∈ fields, needle.get? field.1 =
      some (.string (Item.textOf needle field.1)) := by
    intro field hfield
    have hkey : field.1 ∈ Item.keys line.items := by
      rw [← hkeys]
      exact List.mem_map_of_mem hfield
    obtain ⟨p, hitem⟩ := Item.exists_pattern hkey
    obtain ⟨text, hget, _⟩ := hmeets.patterns _ p hitem
    rw [hget]
    simp [Item.textOf, hget, Value.string?]
  constructor
  · intro heq field hfield
    have hlookup : (Bindings.ofEntries (fields ++ line.constants)).lookup field.1 =
        some field.2 :=
      (Bindings.lookup_ofEntries_eq_some hnodup).2 (List.mem_append_left _ hfield)
    obtain ⟨other, hother, hequal⟩ := Value.lookup_of_map_beq heq hlookup
    have hget : needle.get? field.1 = some other := hother
    rw [htexts field hfield] at hget
    obtain rfl := Option.some.inj hget
    exact Value.beq_string.1 hequal
  · intro hfields
    refine Value.map_beq_of_lookup needle.ordered (length_of_meets hmeets hall) ?_
    intro expected hexpected
    have hget : needle.get? expected.1 = some expected.2 := Needle.get?_eq_some.2 hexpected
    have hkey : expected.1 ∈ line.keys := (hmeets.keys expected.1).1 (Needle.mem_keys_of_get? hget)
    rcases List.mem_append.1 hkey with hpattern | hconstant
    · rw [← hkeys] at hpattern
      obtain ⟨field, hfield, heq⟩ := List.mem_map.1 hpattern
      have htext := htexts field hfield
      rw [heq, hget] at htext
      refine ⟨field.2, ?_, ?_⟩
      · rw [← heq]
        exact (Bindings.lookup_ofEntries_eq_some hnodup).2 (List.mem_append_left _ hfield)
      · rw [Option.some.inj htext, hfields field hfield, heq]
        exact Value.beq_string.2 rfl
    · obtain ⟨field, hfield, heq⟩ := List.mem_map.1 hconstant
      obtain ⟨other, hother, hequal⟩ := hmeets.constants field hfield
      rw [heq, hget] at hother
      obtain rfl := Option.some.inj hother
      refine ⟨field.2, ?_, hequal⟩
      rw [← heq]
      exact (Bindings.lookup_ofEntries_eq_some hnodup).2 (List.mem_append_right _ hfield)

/-- A run of a line over what its items spell takes all of it and comes to the needle's
fields just when the patterns retake their texts. -/
theorem read_back_iff {grammar : Grammar M} {r : Rule} (hbody : grammar r.id = line.body)
    (hmeets : line.Meets needle) (depth : Nat) (memory : M) :
    (∃ value, Forward.parse grammar (depth + 1) r (Item.spellAll needle line.items).toList memory =
        some (⟨[], .ok value⟩, memory) ∧ (value == needle.value) = true) ↔
      Item.Retake needle line.items := by
  constructor
  · rintro ⟨value, hparse, hequal⟩
    obtain ⟨fields, hread, rfl⟩ := (Forward.parse_line hbody).1 hparse
    have hfields := (record_beq_iff hmeets (Forward.keys_readAll hread)).1 hequal
    exact Forward.retake_of_readAll line.consuming hread hfields
  · intro hretake
    have hread := Forward.readAll_of_retake line.consuming hretake
    refine ⟨_, (Forward.parse_line hbody).2 ⟨_, hread, rfl⟩, ?_⟩
    apply (record_beq_iff hmeets (Forward.keys_readAll hread)).2
    intro field hfield
    obtain ⟨key, _, rfl⟩ := List.mem_map.1 hfield
    rfl

end Line

/-- A straight line is inverted to an end. It gives a text just when the needle has the record's
keys, each constant equals its field and each pattern accepts the text of its own; that text is
the items in order. A run of the line over it takes all of it and comes to the needle's fields just
when each pattern, over the text from its place on, matches the needle's text. -/
theorem straight_line_exact {grammar : Grammar M} {r : Rule} {line : Line}
    (hbody : grammar r.id = line.body) {needle : Needle}
    (hstrings : ∀ key ∈ Item.keys line.items, ∀ value, needle.get? key = some value →
      ∃ text, value = .string text)
    (depth : Nat) (memory : M) :
    ∃ inversion, Backward.invert grammar (depth + 1) needle r memory = some (inversion, memory) ∧
      (∀ text, inversion.text? = some text ↔
        line.Meets needle ∧ text = Item.spellAll needle line.items) ∧
      ∀ text, inversion.text? = some text → ∀ (larger : Nat) (other : M),
        (∃ value, Forward.parse grammar (larger + 1) r text.toList other =
            some (⟨[], .ok value⟩, other) ∧ (value == needle.value) = true) ↔
          Item.Retake needle line.items := by
  have htext := Line.text?_inverted hstrings
  refine ⟨_, Line.invert_line hbody depth memory, htext, ?_⟩
  intro text hgiven larger other
  obtain ⟨hmeets, rfl⟩ := (htext text).1 hgiven
  exact Line.read_back_iff hbody hmeets larger other

/-- Two patterns with a text between them, and a constant beside them. -/
theorem straight_line_exact_album :
    let digits : Pattern := Standard.anchored "^[0-9]+"
      (.seq (.look .startText) (.repeats 1 none true (.chars (.interval '0' '9'))))
    let letters : Pattern := Standard.anchored "^[a-z]+"
      (.seq (.look .startText) (.repeats 1 none true (.chars (.interval 'a' 'z'))))
    let line : Line := {
      items := [.literal "/albums/", .pattern "id" digits, .literal "-", .pattern "name" letters]
      constants := [("type", .string "album")]
      distinct := by decide
      primitive := by decide
      consuming := by
        intro key p hitem
        have hpattern : p = digits ∨ p = letters := by
          simp only [List.mem_cons, reduceCtorEq, Item.pattern.injEq, false_or, List.not_mem_nil,
            or_false] at hitem
          exact hitem.imp And.right And.right
        rcases hpattern with rfl | rfl <;> rfl }
    let needle : Needle :=
      ⟨[("id", .string "12"), ("name", .string "low"), ("type", .string "album")], by decide,
        by decide, by decide⟩
    let grammar : Grammar Unit := fun _ => line.body
    let r : Rule := ⟨0, "album"⟩
    (∀ key ∈ Item.keys line.items, ∀ value, needle.get? key = some value →
      ∃ text, value = .string text) ∧
    Backward.invert grammar 1 needle r () =
      some (.complete ["/albums/", "12", "-", "low"], ()) ∧
    line.Meets needle ∧ Item.Retake needle line.items ∧
    ∃ value, Forward.parse grammar 1 r "/albums/12-low".toList () =
      some (⟨[], .ok value⟩, ()) ∧ (value == needle.value) = true := by
  intro digits letters line needle grammar r
  have hstrings : ∀ key ∈ Item.keys line.items, ∀ value, needle.get? key = some value →
      ∃ text, value = .string text := by
    intro key hkey value hget
    have hkeys : key = "id" ∨ key = "name" := by simpa [line, Item.keys] using hkey
    rcases hkeys with rfl | rfl
    · exact ⟨"12", (Option.some.inj hget).symm⟩
    · exact ⟨"low", (Option.some.inj hget).symm⟩
  have hinvert : Backward.invert grammar 1 needle r () =
      some (.complete ["/albums/", "12", "-", "low"], ()) := by decide +kernel
  have hretake : Item.Retake needle line.items := by
    have hname : Item.Retake needle [.pattern "name" letters] :=
      Item.retake_pattern.2
        ⟨Pattern.matchFront?_of_string (by decide +kernel), Item.retake_nil needle⟩
    have hid : Item.Retake needle [.pattern "id" digits, .literal "-", .pattern "name" letters] :=
      Item.retake_pattern.2
        ⟨Pattern.matchFront?_of_string (by decide +kernel), Item.retake_literal.2 hname⟩
    exact Item.retake_literal.2 hid
  have hbody : grammar r.id = line.body := rfl
  obtain ⟨inversion, hinverted, htext, hround⟩ :=
    straight_line_exact hbody hstrings 0 ()
  rw [hinvert] at hinverted
  obtain ⟨rfl, _⟩ := Prod.mk.inj (Option.some.inj hinverted)
  have hjoined : (Backward.Inversion.complete ["/albums/", "12", "-", "low"]).text? =
      some "/albums/12-low" := by decide +kernel
  exact ⟨hstrings, hinvert, ((htext _).1 hjoined).1, hretake, (hround _ hjoined 0 ()).2 hretake⟩

end TwoWay
