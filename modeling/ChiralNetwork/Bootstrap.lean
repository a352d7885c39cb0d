import Mathlib.Data.String.Basic
import Mathlib.Data.List.DropRight

/-!
commands/bootstrap.rs: the two resolvers of bootstrap addresses. Both read the
`BOOTSTRAP_NODES` variable, then the `bootstrap_nodes.json` file embedded at
compile time, then fall back to three hardcoded nodes. The embedded text and the
`serde_json` deserializer are not part of the source, so they are parameters:
`jsonContent` and `fromStr`, the same for both resolvers, as in the code.
-/

set_option autoImplicit false
set_option relaxedAutoImplicit false

namespace ChiralNetwork.Bootstrap

/-- `BootstrapNode`. -/
structure BootstrapNode where
  «alias» : String
  multiaddr : String
  deriving DecidableEq, Repr

/-- `BootstrapNodesConfig`. -/
structure BootstrapNodesConfig where
  nodes : List BootstrapNode
  deriving DecidableEq, Repr

/-- `std::env::VarError`: unset, or not valid Unicode. -/
inductive VarError
  | notPresent
  | notUnicode
  deriving DecidableEq, Repr

/-- `char::is_whitespace`: the Unicode `White_Space` characters. -/
def isWhitespace (c : Char) : Bool :=
  c = ' ' || ('\x09' ≤ c && c ≤ '\x0d') ||
    (c.toNat > 0x7f && (c.toNat = 0x85 || c.toNat = 0xa0 || c.toNat = 0x1680 ||
      (0x2000 ≤ c.toNat && c.toNat ≤ 0x200a) || c.toNat = 0x2028 || c.toNat = 0x2029 ||
      c.toNat = 0x202f || c.toNat = 0x205f || c.toNat = 0x3000))

/-- `str::trim`. -/
def trim (s : String) : String :=
  String.mk ((s.toList.dropWhile isWhitespace).reverse.dropWhile isWhitespace).reverse

/-- `env_nodes.split(',').map(|s| s.trim().to_string()).filter(|s| !s.is_empty()).collect()`,
the pipeline both resolvers write out. -/
def splitNodes (envNodes : String) : List String :=
  ((envNodes.split (· == ',')).map trim).filter (fun s => !s.isEmpty)

/-- `get_hardcoded_bootstrap_nodes`. -/
def getHardcodedBootstrapNodes : List String :=
  ["/ip4/134.199.240.145/tcp/4001/p2p/12D3KooWFYTuQ2FY8tXRtFKfpXkTSipTF55mZkLntwtN1nHu83qE",
   "/ip4/136.116.190.115/tcp/4001/p2p/12D3KooWETLNJUVLbkAbenbSPPdwN9ZLkBU3TLfyAeEUW2dsVptr",
   "/ip4/130.245.173.105/tcp/4001/p2p/12D3KooWGFRvjXFBoU9y6xdteqP1kzctAXrYPoaDGmTGRHybZ6rp"]

section Resolvers

variable (fromStr : String → Except String BootstrapNodesConfig) (jsonContent : String)

/-- `load_bootstrap_nodes_from_json`. -/
def loadBootstrapNodesFromJson : Except String (List String) :=
  (fromStr jsonContent).map (fun config => config.nodes.map (·.multiaddr))

/-- `load_bootstrap_nodes_config_from_json`. -/
def loadBootstrapNodesConfigFromJson : Except String BootstrapNodesConfig :=
  fromStr jsonContent

/-- `get_bootstrap_nodes`, given what `std::env::var("BOOTSTRAP_NODES")` returns. -/
def getBootstrapNodes (env : Except VarError String) : List String :=
  let fromEnv := match env with
    | .ok envNodes => let nodes := splitNodes envNodes; if !nodes.isEmpty then some nodes else none
    | .error _ => none
  match fromEnv with
  | some nodes => nodes
  | none =>
    match loadBootstrapNodesFromJson fromStr jsonContent with
    | .ok nodes => if !nodes.isEmpty then nodes else getHardcodedBootstrapNodes
    | .error _ => getHardcodedBootstrapNodes

/-- `get_bootstrap_nodes_with_info`. -/
def getBootstrapNodesWithInfo (env : Except VarError String) : List BootstrapNode :=
  let fromEnv := match env with
    | .ok envNodes =>
      let nodes := splitNodes envNodes
      if !nodes.isEmpty then
        some (nodes.enum.map fun (i, multiaddr) => ⟨"bootstrap-" ++ toString (i + 1), multiaddr⟩)
      else none
    | .error _ => none
  match fromEnv with
  | some nodes => nodes
  | none =>
    match loadBootstrapNodesConfigFromJson fromStr jsonContent with
    | .ok config => if !config.nodes.isEmpty then config.nodes else hardcoded
    | .error _ => hardcoded
where
  hardcoded : List BootstrapNode :=
    [⟨"vincenzo-bootstrap",
      "/ip4/134.199.240.145/tcp/4001/p2p/12D3KooWFYTuQ2FY8tXRtFKfpXkTSipTF55mZkLntwtN1nHu83qE"⟩,
     ⟨"turtle-bootstrap-2",
      "/ip4/136.116.190.115/tcp/4001/p2p/12D3KooWETLNJUVLbkAbenbSPPdwN9ZLkBU3TLfyAeEUW2dsVptr"⟩,
     ⟨"whale-bootstrap-3",
      "/ip4/130.245.173.105/tcp/4001/p2p/12D3KooWGFRvjXFBoU9y6xdteqP1kzctAXrYPoaDGmTGRHybZ6rp"⟩]

/-- The spec's resolution order: the variable's pieces between commas, cut of
whitespace at both ends, the empty ones dropped; then the file's addresses; then
the hardcoded three. -/
def tiers (env : Except VarError String) : List (List String) :=
  [match env with
    | .ok envNodes =>
      (((envNodes.toList.splitOn ',').map fun piece =>
        (piece.dropWhile isWhitespace).rdropWhile isWhitespace).filter (· ≠ [])).map String.mk
    | .error _ => [],
   match fromStr jsonContent with | .ok config => config.nodes.map (·.multiaddr) | .error _ => [],
   getHardcodedBootstrapNodes]

/-- The first non-empty tier. -/
def firstNonEmptyTier : List (List String) → List String
  | [] => []
  | tier :: rest => if tier.isEmpty then firstNonEmptyTier rest else tier

private theorem trim_mk (piece : List Char) :
    trim (String.mk piece) = String.mk ((piece.dropWhile isWhitespace).rdropWhile isWhitespace) :=
  rfl

private theorem isEmpty_mk (piece : List Char) : (String.mk piece).isEmpty = decide (piece = []) := by
  rw [Bool.eq_iff_iff, String.isEmpty_iff, decide_eq_true_iff, String.ext_iff]

private theorem tiers_ok (envNodes : String) :
    tiers fromStr jsonContent (.ok envNodes) =
      splitNodes envNodes :: (tiers fromStr jsonContent (.error .notPresent)).drop 1 := by
  have pieces : splitNodes envNodes = (((envNodes.toList.splitOn ',').map fun piece =>
      (piece.dropWhile isWhitespace).rdropWhile isWhitespace).filter (· ≠ [])).map String.mk := by
    have cut : trim ∘ String.mk =
        String.mk ∘ fun piece => (piece.dropWhile isWhitespace).rdropWhile isWhitespace :=
      funext trim_mk
    rw [splitNodes, String.split_of_valid, List.map_map, cut, ← List.map_map, List.filter_map]
    congr 1
    exact List.filter_congr fun piece _ => by simp [isEmpty_mk]
  rw [pieces]
  rfl

private theorem enum_labels (nodes : List String) :
    nodes.enum.map (BootstrapNode.multiaddr ∘ fun x =>
      (⟨"bootstrap-" ++ toString (x.1 + 1), x.2⟩ : BootstrapNode)) = nodes :=
  List.enum_map_snd nodes

private theorem json_tiers_agree :
    (match loadBootstrapNodesFromJson fromStr jsonContent with
      | .ok nodes => if !nodes.isEmpty then nodes else getHardcodedBootstrapNodes
      | .error _ => getHardcodedBootstrapNodes) =
      (match loadBootstrapNodesConfigFromJson fromStr jsonContent with
      | .ok config => if !config.nodes.isEmpty then config.nodes
          else getBootstrapNodesWithInfo.hardcoded
      | .error _ => getBootstrapNodesWithInfo.hardcoded).map BootstrapNode.multiaddr ∧
    (match loadBootstrapNodesFromJson fromStr jsonContent with
      | .ok nodes => if !nodes.isEmpty then nodes else getHardcodedBootstrapNodes
      | .error _ => getHardcodedBootstrapNodes) =
      firstNonEmptyTier ((tiers fromStr jsonContent (.error .notPresent)).drop 1) := by
  have fallback : getBootstrapNodesWithInfo.hardcoded.map BootstrapNode.multiaddr =
      getHardcodedBootstrapNodes := rfl
  have hard : getHardcodedBootstrapNodes ≠ [] := List.cons_ne_nil _ _
  rcases hj : fromStr jsonContent with _ | config
  · simp [loadBootstrapNodesFromJson, loadBootstrapNodesConfigFromJson, tiers,
      firstNonEmptyTier, hj, Except.map, fallback, hard]
  · by_cases hn : config.nodes = [] <;>
      simp [loadBootstrapNodesFromJson, loadBootstrapNodesConfigFromJson, tiers,
        firstNonEmptyTier, hj, Except.map, fallback, hard, hn]

/-- For every value of the variable and every embedded file and deserializer,
the two resolvers give the same addresses in the same order, those of the first
non-empty tier. -/
theorem bootstrap_resolvers_agree (env : Except VarError String) :
    getBootstrapNodes fromStr jsonContent env =
        (getBootstrapNodesWithInfo fromStr jsonContent env).map BootstrapNode.multiaddr ∧
      getBootstrapNodes fromStr jsonContent env = firstNonEmptyTier (tiers fromStr jsonContent env) := by
  obtain ⟨same, first⟩ := json_tiers_agree fromStr jsonContent
  rcases env with _ | envNodes
  · exact ⟨same, first⟩
  · rw [tiers_ok]
    by_cases he : splitNodes envNodes = []
    · simp only [getBootstrapNodes, getBootstrapNodesWithInfo, firstNonEmptyTier, he]
      exact ⟨same, first⟩
    · simp [getBootstrapNodes, getBootstrapNodesWithInfo, firstNonEmptyTier, he, enum_labels]

end Resolvers

end ChiralNetwork.Bootstrap
