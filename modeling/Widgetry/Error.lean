/-!
Why an operation fails. An error carries its cause; `Error.message` is the text shown for it.
-/
namespace Widgetry

/-- A required value was missing or malformed. -/
inductive ArgumentFault where
  | familyMissing
  | flagCount
  | badgeDimension
  | badgePadding
  | tooltipEmpty
  | pathMissing
  | usage
  deriving DecidableEq, Repr

/-- A numeric or geometric constraint was violated. -/
inductive RangeFault where
  /-- The labelled field is negative or NaN. -/
  | field (label : String)
  | insetsExceedExtent
  | negativeExtent
  | negativeInsets
  | measureSize
  | colorChannel
  | fontSize
  | fontWeight
  | easingCode
  | tabModeCode
  | selectionModeCode
  | badgeCornerCode
  | tooltipVariantCode
  | tooltipDirectionCode
  | tooltipAlignCode
  | duration
  | timeStep
  | selectedIndex
  | narrowForSpacing
  | itemWidth
  | itemHeight
  | noVerticalRoom
  | hitStride
  | tabContentWidth
  | scrollOffset
  | indicatorGeometry
  | tabIndex
  | tabRectangle
  | segmentRectangle
  | segmentIndex
  | badgeSize
  | tooltipMaxWidth
  | tooltipMaxHeight
  | tooltipMetrics
  | tooltipSize
  deriving DecidableEq, Repr

/-- The operation is not valid in the current state. -/
inductive StateFault where
  | fontReleased
  | unknownFont
  | channelIdle
  | pressedTwice
  | needsSingleMode
  | needsMultiMode
  /-- A state the host reports in its own words. -/
  | host (detail : String)
  deriving DecidableEq, Repr

/-- What a host may leave out. -/
inductive Capability where
  | createFonts
  | destroyFonts
  | measureText
  | drawRects
  | drawText
  deriving DecidableEq, Repr

inductive Error where
  | invalidArgument (fault : ArgumentFault)
  | range (fault : RangeFault)
  | state (fault : StateFault)
  | unsupported (missing : Capability)
  /-- A call to the host failed. -/
  | io (detail : String)
  /-- A style sheet could not be read. -/
  | invalidConfig (detail : String)
  | unknown (detail : String)
  deriving DecidableEq, Repr

def ArgumentFault.message : ArgumentFault → String
  | familyMissing => "text style needs a font family"
  | flagCount => "selection state array must have one flag per item"
  | badgeDimension => "badge dimensions must be positive"
  | badgePadding => "badge padding is negative"
  | tooltipEmpty => "tooltip has no text"
  | pathMissing => "--style needs a path"
  | usage => "usage: m3_demo [--style <path>]"

def RangeFault.message : RangeFault → String
  | field label => label
  | insetsExceedExtent => "insets exceed rectangle extent"
  | negativeExtent => "rectangle has negative extent"
  | negativeInsets => "edge insets must be non-negative"
  | measureSize => "measure size must be non-negative"
  | colorChannel => "color channel outside 0..=1"
  | fontSize => "font size must be positive"
  | fontWeight => "font weight must be within 100..=900"
  | easingCode => "unknown easing code"
  | tabModeCode => "unknown tab mode"
  | selectionModeCode => "unknown selection mode"
  | badgeCornerCode => "unknown badge corner"
  | tooltipVariantCode => "unknown tooltip variant"
  | tooltipDirectionCode => "unknown tooltip direction"
  | tooltipAlignCode => "unknown tooltip alignment"
  | duration => "animation duration must be non-negative"
  | timeStep => "animation step must be non-negative"
  | selectedIndex => "selected index out of range"
  | narrowForSpacing => "bounds too narrow for item spacing"
  | itemWidth => "item width is negative"
  | itemHeight => "item height must be positive"
  | noVerticalRoom => "no vertical room for items"
  | hitStride => "hit-test stride must be positive"
  | tabContentWidth => "tab content width is negative"
  | scrollOffset => "scroll offset is negative"
  | indicatorGeometry => "indicator geometry is negative"
  | tabIndex => "tab index out of range"
  | tabRectangle => "tab rectangle is negative"
  | segmentRectangle => "segment rectangle is negative"
  | segmentIndex => "segment index out of range"
  | badgeSize => "badge size is negative"
  | tooltipMaxWidth => "tooltip max width below min width"
  | tooltipMaxHeight => "tooltip max height below min height"
  | tooltipMetrics => "tooltip text metrics are negative"
  | tooltipSize => "tooltip size is negative"

def StateFault.message : StateFault → String
  | fontReleased => "font already released"
  | unknownFont => "unknown font handle"
  | channelIdle => "animation channel was never started"
  | pressedTwice => "pointer pressed twice without release"
  | needsSingleMode => "selected index needs single mode"
  | needsMultiMode => "selection flags need multi mode"
  | host detail => detail

def Capability.message : Capability → String
  | createFonts => "text backend cannot create fonts"
  | destroyFonts => "text backend cannot destroy fonts"
  | measureText => "text backend cannot measure text"
  | drawRects => "paint backend cannot draw rectangles"
  | drawText => "paint backend cannot draw text"

def Error.message : Error → String
  | invalidArgument fault => "invalid argument: " ++ fault.message
  | range fault => "value out of range: " ++ fault.message
  | state fault => "invalid state: " ++ fault.message
  | unsupported missing => "unsupported: " ++ missing.message
  | io detail => "backend i/o failure: " ++ detail
  | invalidConfig detail => "invalid configuration: " ++ detail
  | unknown detail => "unknown failure: " ++ detail

end Widgetry
