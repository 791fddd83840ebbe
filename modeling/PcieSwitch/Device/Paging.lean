import PcieSwitch.Pages
import PcieSwitch.Device.Handle

/-!
This module contains work on long lists, of which one command carries only a page.
-/

namespace PcieSwitch

namespace Operation

def paged (work : List α → Operation (List β)) : List (List α) → Operation (List β)
  | [] => return []
  | page :: rest => do
    let results ← work page
    let others ← paged work rest
    return results ++ others

def pagedOrders (order : List α → Operation Unit) : List (List α) → Operation Unit
  | [] => return
  | page :: rest => do
    order page
    pagedOrders order rest

end Operation
end PcieSwitch
