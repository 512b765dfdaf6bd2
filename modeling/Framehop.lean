import Framehop.UnwindRule
import Framehop.RuleCache
import Framehop.BinarySearch
import Framehop.Registry
import Framehop.Macho
import Framehop.Unwinder
import Framehop.Iterator
import Framehop.SharedCache
import Framehop.FramePointerWalk
import Framehop.RuleWalk
import Framehop.ModuleSections
