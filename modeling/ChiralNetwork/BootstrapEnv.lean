import ChiralNetwork.Bootstrap
import Mathlib.Data.String.Basic

/-!
The `BOOTSTRAP_NODES` format of commands/bootstrap.rs. Both resolvers read the
variable as comma-separated addresses: `split(',')`, `trim` every piece, drop the
empty ones (`splitNodes`). What this accepts is well formed: every address is
non-empty, holds no comma, and has no whitespace at either end. Conversely, such
addresses joined by commas read back exactly, so a variable holding them makes
both resolvers return them, `get_bootstrap_nodes_with_info` with the aliases
`bootstrap-1, bootstrap-2, ...`, whatever the embedded file says.
-/

set_option autoImplicit false
set_option relaxedAutoImplicit false

namespace ChiralNetwork.BootstrapEnv

open ChiralNetwork.Bootstrap

/-- An address the variable carries as it is: non-empty, without a comma, and
with no whitespace as its first or last character. -/
def Address (a : String) : Prop :=
  a ≠ "" ∧ ',' ∉ a.toList ∧ (∀ c ∈ a.toList.head?, isWhitespace c = false) ∧
    ∀ c ∈ a.toList.getLast?, isWhitespace c = false

instance : DecidablePred Address := fun _ => inferInstanceAs (Decidable (_ ∧ _ ∧ _ ∧ _))

section DropWhile

variable {α : Type} (p : α → Bool)

private theorem head?_dropWhile (l : List α) : ∀ c ∈ (l.dropWhile p).head?, p c = false := by
  have := List.head?_dropWhile_not p l
  intro c hc
  rw [Option.mem_def] at hc
  rwa [hc] at this

private theorem dropWhile_of_head? {l : List α} (h : ∀ c ∈ l.head?, p c = false) :
    l.dropWhile p = l := by
  cases l with
  | nil => rfl
  | cons x xs => exact List.dropWhile_cons_of_neg (by simp [h x rfl])

private theorem head?_dropWhile_reverse {l : List α} (h : ∀ c ∈ l.head?, p c = false) :
    ∀ c ∈ (l.reverse.dropWhile p).reverse.head?, p c = false := by
  cases l with
  | nil => simp
  | cons x xs =>
    have hx : p x = false := h x rfl
    rw [List.reverse_cons, List.dropWhile_append]
    split <;> simp [List.dropWhile_cons, hx]

end DropWhile

theorem trim_ends (s : String) :
    (∀ c ∈ (trim s).toList.head?, isWhitespace c = false) ∧
      ∀ c ∈ (trim s).toList.getLast?, isWhitespace c = false := by
  refine ⟨head?_dropWhile_reverse isWhitespace (head?_dropWhile isWhitespace s.data), ?_⟩
  show ∀ c ∈ (List.dropWhile isWhitespace _).reverse.getLast?, _
  rw [List.getLast?_reverse]
  exact head?_dropWhile _ _

theorem trim_of_ends {a : String} (first : ∀ c ∈ a.toList.head?, isWhitespace c = false)
    (last : ∀ c ∈ a.toList.getLast?, isWhitespace c = false) : trim a = a := by
  have back : ∀ c ∈ a.toList.reverse.head?, isWhitespace c = false := by
    rwa [List.head?_reverse]
  simp only [trim]
  rw [dropWhile_of_head? _ first, dropWhile_of_head? _ back, List.reverse_reverse]
  rfl

theorem trim_sublist (s : String) : (trim s).toList.Sublist s.toList := by
  have cut := (List.dropWhile_sublist isWhitespace
    (l := (s.toList.dropWhile isWhitespace).reverse)).reverse
  rw [List.reverse_reverse] at cut
  exact cut.trans (List.dropWhile_sublist _)

theorem splitOnP_pieces {α : Type} (p : α → Bool) (xs : List α) :
    ∀ l ∈ xs.splitOnP p, ∀ x ∈ l, p x = false := by
  induction xs with
  | nil => simp
  | cons x xs ih =>
    rw [List.splitOnP_cons]
    split
    · intro l hl
      rcases List.mem_cons.mp hl with rfl | hl
      · simp
      · exact ih l hl
    · next hx =>
      obtain ⟨y, ys, hys⟩ := List.exists_cons_of_ne_nil (List.splitOnP_ne_nil p xs)
      rw [hys] at ih ⊢
      intro l hl
      rw [List.modifyHead_cons] at hl
      rcases List.mem_cons.mp hl with rfl | hl
      · intro c hc
        rcases List.mem_cons.mp hc with rfl | hc
        · simpa using hx
        · exact ih y (List.mem_cons_self _ _) c hc
      · exact ih l (List.mem_cons_of_mem _ hl)

private theorem intercalate_go_data (acc sep : String) (l : List String) :
    (String.intercalate.go acc sep l).data =
      acc.data ++ (l.map fun a => sep.data ++ a.data).flatten := by
  induction l generalizing acc with
  | nil => simp [String.intercalate.go]
  | cons a l ih =>
    simp only [String.intercalate.go, ih, String.data_append, List.map_cons, List.flatten_cons,
      List.append_assoc]

private theorem splitOnP_joined (l : List String) (hl : ∀ a ∈ l, ',' ∉ a.toList) :
    ∀ acc : List Char, ',' ∉ acc →
      (acc ++ (l.map fun a => [','] ++ a.toList).flatten).splitOnP (· == ',') =
        acc :: l.map String.toList := by
  induction l with
  | nil =>
    intro acc hacc
    simpa using List.splitOnP_eq_single _ acc fun c hc h => hacc (by simp at h; exact h ▸ hc)
  | cons a l ih =>
    intro acc hacc
    rw [List.map_cons, List.flatten_cons, List.singleton_append, List.cons_append,
      List.splitOnP_first _ acc (fun c hc h => hacc (by simp at h; exact h ▸ hc)) ',' (by simp),
      ih (fun b hb => hl b (List.mem_cons_of_mem _ hb)) a.toList (hl a (List.mem_cons_self _ _)),
      List.map_cons]

theorem split_intercalate (l : List String) (hne : l ≠ []) (hl : ∀ a ∈ l, ',' ∉ a.toList) :
    (",".intercalate l).split (· == ',') = l := by
  obtain ⟨a, l, rfl⟩ := List.exists_cons_of_ne_nil hne
  have joined := splitOnP_joined l (fun b hb => hl b (List.mem_cons_of_mem _ hb)) a.toList
    (hl a (List.mem_cons_self _ _))
  rw [String.split_of_valid, show (",".intercalate (a :: l)).data = _ from
    intercalate_go_data a "," l, show ",".data = [','] from rfl]
  erw [joined]
  simp [Function.comp_def]

/-- For every value of the variable, every address `split`, `trim` and the
filter let through is non-empty, holds no comma, and has no whitespace at
either end. -/
theorem env_addresses_well_formed (envNodes : String) : ∀ a ∈ splitNodes envNodes, Address a := by
  intro a ha
  simp only [splitNodes, List.mem_filter, List.mem_map, String.split_of_valid] at ha
  obtain ⟨⟨piece, ⟨l, hl, rfl⟩, rfl⟩, nonempty⟩ := ha
  refine ⟨fun he => absurd (he ▸ nonempty) (by decide), fun hc => ?_, trim_ends _⟩
  have := splitOnP_pieces _ _ l hl ',' ((trim_sublist ⟨l⟩).subset hc)
  simp at this

/-- Padding and an empty piece are dropped: ` a , ,b ` gives `a` and `b`. -/
theorem padded_env_address :
    "a" ∈ splitNodes " a , ,b " ∧ Address "a" :=
  have read : "a" ∈ splitNodes " a , ,b " := by
    rw [splitNodes, String.split_of_valid]
    decide
  ⟨read, env_addresses_well_formed " a , ,b " "a" read⟩

theorem splitNodes_intercalate (addrs : List String) (h : ∀ a ∈ addrs, Address a) :
    splitNodes (",".intercalate addrs) = addrs := by
  rcases addrs with _ | ⟨a, rest⟩
  · simp [splitNodes, String.split_of_valid, String.intercalate, trim, String.isEmpty_iff]
  · rw [splitNodes, split_intercalate _ (List.cons_ne_nil _ _) fun b hb => (h b hb).2.1,
      List.map_congr_left fun b hb => trim_of_ends (h b hb).2.2.1 (h b hb).2.2.2, List.map_id',
      List.filter_eq_self]
    intro b hb
    have : b.isEmpty ≠ true := fun he => (h b hb).1 ((String.isEmpty_iff b).mp he)
    simpa using this

/-- For every embedded file and deserializer: a variable holding well-formed
addresses joined by commas makes `get_bootstrap_nodes` return exactly them, and
`get_bootstrap_nodes_with_info` return them in order as `bootstrap-1, bootstrap-2, ...`. -/
theorem bootstrap_env_round_trip (fromStr : String → Except String BootstrapNodesConfig)
    (jsonContent : String) (addrs : List String) (h : ∀ a ∈ addrs, Address a) (ne : addrs ≠ []) :
    getBootstrapNodes fromStr jsonContent (.ok (",".intercalate addrs)) = addrs ∧
      getBootstrapNodesWithInfo fromStr jsonContent (.ok (",".intercalate addrs)) =
        addrs.enum.map fun (i, multiaddr) => ⟨"bootstrap-" ++ toString (i + 1), multiaddr⟩ := by
  have read := splitNodes_intercalate addrs h
  simp [getBootstrapNodes, getBootstrapNodesWithInfo, read, ne]

/-- Two addresses set through the variable, joined by a comma. -/
theorem two_env_addresses_read :
    (∀ a ∈ ["/ip4/10.0.0.1/tcp/4001", "/ip4/10.0.0.2/tcp/4001"], Address a) ∧
      ["/ip4/10.0.0.1/tcp/4001", "/ip4/10.0.0.2/tcp/4001"] ≠ [] ∧
      getBootstrapNodes (fun _ => .error "unused") ""
          (.ok (",".intercalate ["/ip4/10.0.0.1/tcp/4001", "/ip4/10.0.0.2/tcp/4001"])) =
        ["/ip4/10.0.0.1/tcp/4001", "/ip4/10.0.0.2/tcp/4001"] ∧
      getBootstrapNodesWithInfo (fun _ => .error "unused") ""
          (.ok (",".intercalate ["/ip4/10.0.0.1/tcp/4001", "/ip4/10.0.0.2/tcp/4001"])) =
        ["/ip4/10.0.0.1/tcp/4001", "/ip4/10.0.0.2/tcp/4001"].enum.map fun (i, multiaddr) =>
          ⟨"bootstrap-" ++ toString (i + 1), multiaddr⟩ :=
  have wf : ∀ a ∈ ["/ip4/10.0.0.1/tcp/4001", "/ip4/10.0.0.2/tcp/4001"], Address a := by decide
  ⟨wf, List.cons_ne_nil _ _,
    bootstrap_env_round_trip (fun _ => .error "unused") ""
      ["/ip4/10.0.0.1/tcp/4001", "/ip4/10.0.0.2/tcp/4001"] wf (List.cons_ne_nil _ _)⟩

end ChiralNetwork.BootstrapEnv
