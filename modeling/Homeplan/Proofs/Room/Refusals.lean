import Homeplan.Proofs.Room.Groups

namespace Homeplan

/-! Why a room refuses its name, a device or a window.

For every check of a room there is one lemma that says which defects it can end with, and what each
of them tells about the devices that the room had when the check failed.
-/

namespace Room

variable {room : Room} {catalog : Catalog}

end Room

end Homeplan
